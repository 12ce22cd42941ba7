import DeviceTwin.Proofs.Assoc
import DeviceTwin.Telemetry

/-!
The properties of a telemetry message under the calls that are made on it. The names stay distinct and in the order in
which they were set first, and a property has the value that it was set to last (`TelemetryMessage.MapOf`). One more
call keeps this (`MapOf.call`), so it holds after any number of them, while the content stays as it was written
(`TelemetryMessage.staysMap`).
-/
namespace DeviceTwin

/-- A call that is made on a message. -/
inductive TelemetryCall where
  | property (name value : String)
  | component (name : String)

/-! ### What calls set -/

namespace TelemetryCall
variable {call : TelemetryCall} {calls : List TelemetryCall} {name name' value value' : String}

/-- A call sets a property to a value. A component that is named is a property as well. -/
inductive Sets : TelemetryCall → String → String → Prop where
  | property (name value : String) : Sets (.property name value) name value
  | component {name : String} (named : name ≠ "") : Sets (.component name) "$.sub" name

/-- One of the calls sets a property. -/
def SetIn (calls : List TelemetryCall) (name : String) : Prop :=
  ∃ call ∈ calls, ∃ value, call.Sets name value

/-- The last of the calls that set a property sets it to a value. -/
def LastSetIn (calls : List TelemetryCall) (name value : String) : Prop :=
  ∃ before call after, calls = before ++ call :: after ∧ call.Sets name value ∧ ¬ SetIn after name

/-- A property is set by some of the calls at a time when another one is not set yet. -/
def SetSooner (calls : List TelemetryCall) (name other : String) : Prop :=
  ∃ before, before <+: calls ∧ SetIn before name ∧ ¬ SetIn before other

@[simp] theorem sets_property : (property name value).Sets name' value' ↔ name' = name ∧ value' = value := by
  constructor
  · rintro ⟨⟩
    exact ⟨rfl, rfl⟩
  · rintro ⟨rfl, rfl⟩
    exact .property name' value'

@[simp] theorem sets_component : (component name).Sets name' value' ↔ name ≠ "" ∧ name' = "$.sub" ∧ value' = name := by
  constructor
  · rintro ⟨⟩
    exact ⟨‹_›, rfl, rfl⟩
  · rintro ⟨named, rfl, rfl⟩
    exact .component named

/-- A call sets no more than one property. -/
theorem Sets.unique (sets : call.Sets name value) (sets' : call.Sets name' value') : name = name' ∧ value = value' := by
  cases sets <;> cases sets' <;> exact ⟨rfl, rfl⟩

theorem not_setIn_nil (name : String) : ¬ SetIn [] name := by
  rintro ⟨call, member, _⟩
  cases member

theorem setIn_concat : SetIn (calls ++ [call]) name ↔ SetIn calls name ∨ ∃ value, call.Sets name value := by
  simp [SetIn, or_and_right, exists_or]

theorem lastSetIn_concat : LastSetIn (calls ++ [call]) name value ↔
    call.Sets name value ∨ LastSetIn calls name value ∧ ¬ ∃ value', call.Sets name value' := by
  constructor
  · rintro ⟨before, c, after, split, sets, last⟩
    rcases concat_eq_append_cons.mp split with ⟨_, _, rfl⟩ | ⟨inner, rfl, rfl⟩
    · exact .inl sets
    · rw [setIn_concat, not_or] at last
      exact .inr ⟨⟨before, c, inner, rfl, sets, last.1⟩, last.2⟩
  · rintro (sets | ⟨⟨before, c, after, rfl, sets, last⟩, other⟩)
    · exact ⟨calls, call, [], rfl, sets, not_setIn_nil name⟩
    · refine ⟨before, c, after ++ [call], by simp, sets, ?_⟩
      rw [setIn_concat, not_or]
      exact ⟨last, other⟩

theorem SetSooner.concat (sooner : SetSooner calls name name') (call : TelemetryCall) :
    SetSooner (calls ++ [call]) name name' := by
  obtain ⟨before, start, set⟩ := sooner
  exact ⟨before, start.trans (List.prefix_append calls [call]), set⟩

theorem SetSooner.ne (sooner : SetSooner calls name name') : name ≠ name' := by
  obtain ⟨before, _, set, unset⟩ := sooner
  exact fun same => unset (same ▸ set)

end TelemetryCall

/-! ### Messages -/

namespace TelemetryMessage
open TelemetryCall
variable {m : TelemetryMessage} {c : TelemetryCall} {calls earlier : List TelemetryCall} {name value : String}

/-- Makes a call on a message. -/
def call (m : TelemetryMessage) : TelemetryCall → TelemetryMessage
  | .property name value => m.property name value
  | .component name => m.component name

/-- Makes calls, each on the message that the one before has left. -/
def callAll (m : TelemetryMessage) (calls : List TelemetryCall) : TelemetryMessage :=
  calls.foldl call m

/-- A message, with the calls that have been made on it since it was new. -/
inductive MadeBy : List TelemetryCall → TelemetryMessage → Prop where
  | new {s : Serializer} {telemetry : Datum} {m : TelemetryMessage} (making : new s telemetry = .ok m) : MadeBy [] m
  | call {calls : List TelemetryCall} {m : TelemetryMessage} (made : MadeBy calls m) (c : TelemetryCall) :
    MadeBy (calls ++ [c]) (m.call c)

/-- The properties of a message are a map that the calls have set. -/
structure MapOf (calls : List TelemetryCall) (m : TelemetryMessage) : Prop where
  distinct : m.properties.keys.Nodup
  names : ∀ name, name ∈ m.properties.keys ↔ SetIn calls name
  order : m.properties.keys.Pairwise (SetSooner calls)
  latest : ∀ name value, m.propertyValue name = some value ↔ LastSetIn calls name value
  absent : ∀ name, m.propertyValue name = none ↔ ¬ SetIn calls name
  component : ∀ name, m.componentName = some name ↔ LastSetIn calls "$.sub" name
  root : m.componentName = none ↔ ¬ SetIn calls "$.sub"

/-- A message holds the same telemetry as another one, written in the same way. -/
structure SameContent (m m' : TelemetryMessage) : Prop where
  payload : m'.payload = m.payload
  contentType : m'.contentType = m.contentType
  contentEncoding : m'.contentEncoding = m.contentEncoding

/-- The names, their order and their values are all that there is to the map. -/
theorem MapOf.of_latest (names : ∀ name, name ∈ m.properties.keys ↔ SetIn calls name)
    (order : m.properties.keys.Pairwise (SetSooner calls))
    (latest : ∀ name value, m.propertyValue name = some value ↔ LastSetIn calls name value) : MapOf calls m := by
  have absent (name : String) : m.propertyValue name = none ↔ ¬ SetIn calls name := by
    rw [← names, ← Assoc.isSome_find?, Bool.not_eq_true, Option.isSome_eq_false_iff, Option.isNone_iff_eq_none]
    rfl
  exact ⟨order.imp SetSooner.ne, names, order, latest, absent, latest "$.sub", absent "$.sub"⟩

/-! ### A new message -/

theorem properties_of_new {s : Serializer} {telemetry : Datum} (making : TelemetryMessage.new s telemetry = .ok m) :
    m.properties = [] := by
  rw [TelemetryMessage.new] at making
  cases written : s.serialize telemetry with
  | error e =>
    rw [written] at making
    cases making
  | ok payload =>
    rw [written] at making
    cases making
    rfl

theorem mapOf_bare (bare : m.properties = []) : MapOf [] m := by
  apply MapOf.of_latest
  · intro name
    simp [bare, Assoc.keys, not_setIn_nil]
  · rw [bare]
    exact List.Pairwise.nil
  · intro name value
    simp [propertyValue, bare, Assoc.find?, LastSetIn]

/-! ### One call -/

theorem MapOf.set (map : MapOf calls m) (sets : c.Sets name value) : MapOf (calls ++ [c]) (m.property name value) := by
  have same (n : String) : (∃ v, c.Sets n v) ↔ n = name :=
    ⟨fun ⟨_, sets'⟩ => (sets'.unique sets).1, fun same => ⟨value, same ▸ sets⟩⟩
  have keys : (m.property name value).properties.keys =
      if name ∈ m.properties.keys then m.properties.keys else m.properties.keys ++ [name] :=
    Assoc.keys_insert name value m.properties
  apply MapOf.of_latest
  · intro n
    rw [keys, setIn_concat, same, ← map.names]
    by_cases there : name ∈ m.properties.keys
    · rw [if_pos there]
      exact ⟨.inl, fun known => known.elim id fun here => here ▸ there⟩
    · rw [if_neg there, List.mem_append, List.mem_singleton]
  · rw [keys]
    by_cases there : name ∈ m.properties.keys
    · rw [if_pos there]
      exact map.order.imp fun sooner => sooner.concat c
    · rw [if_neg there, List.pairwise_append]
      refine ⟨map.order.imp fun sooner => sooner.concat c, List.pairwise_singleton _ _, ?_⟩
      -- All the other names are set before this call, which is the first one to set the new name.
      intro first known second new
      obtain rfl := List.mem_singleton.mp new
      exact ⟨calls, List.prefix_append _ _, (map.names first).mp known, fun set => there ((map.names second).mpr set)⟩
  · intro n v
    have found : (m.property name value).propertyValue n = if name = n then some value else m.propertyValue n :=
      Assoc.find?_insert name n value m.properties
    rw [found, lastSetIn_concat, same, ← map.latest]
    by_cases here : name = n
    · subst here
      rw [if_pos rfl, Option.some.injEq]
      constructor
      · rintro rfl
        exact .inl sets
      · rintro (sets' | ⟨_, other⟩)
        · exact (sets.unique sets').2
        · exact absurd rfl other
    · rw [if_neg here]
      constructor
      · intro kept
        exact .inr ⟨kept, Ne.symm here⟩
      · rintro (sets' | ⟨kept, _⟩)
        · exact absurd (sets.unique sets').1 here
        · exact kept

theorem MapOf.skip (map : MapOf calls m) (nothing : ∀ name value, ¬ c.Sets name value) : MapOf (calls ++ [c]) m := by
  apply MapOf.of_latest
  · intro name
    simp [setIn_concat, map.names, nothing]
  · exact map.order.imp fun sooner => sooner.concat c
  · intro name value
    simp [lastSetIn_concat, map.latest, nothing]

/-- One more call leaves the properties of a message a map. -/
theorem MapOf.call (map : MapOf calls m) (c : TelemetryCall) : MapOf (calls ++ [c]) (m.call c) := by
  cases c with
  | property name value => exact map.set (.property name value)
  | component name =>
    by_cases nameless : name = ""
    · have unchanged : m.call (.component name) = m := if_pos nameless
      rw [unchanged]
      exact map.skip (by simp [nameless])
    · have set : m.call (.component name) = m.property "$.sub" name := if_neg nameless
      rw [set]
      exact map.set (.component nameless)

theorem SameContent.trans {m m' m'' : TelemetryMessage} (first : SameContent m m') (second : SameContent m' m'') :
    SameContent m m'' :=
  ⟨second.payload.trans first.payload, second.contentType.trans first.contentType,
    second.contentEncoding.trans first.contentEncoding⟩

theorem sameContent_call (m : TelemetryMessage) (c : TelemetryCall) : SameContent m (m.call c) := by
  cases c with
  | property name value => exact ⟨rfl, rfl, rfl⟩
  | component name =>
    rw [call, component]
    split
    · exact ⟨rfl, rfl, rfl⟩
    · exact ⟨rfl, rfl, rfl⟩

/-! ### All calls -/

theorem sameContent_callAll (m : TelemetryMessage) (calls : List TelemetryCall) : SameContent m (m.callAll calls) := by
  induction calls generalizing m with
  | nil => exact ⟨rfl, rfl, rfl⟩
  | cons c calls ih => exact (sameContent_call m c).trans (ih (m.call c))

theorem MadeBy.callAll (made : MadeBy earlier m) (calls : List TelemetryCall) :
    MadeBy (earlier ++ calls) (m.callAll calls) := by
  induction calls generalizing earlier m with
  | nil => rwa [List.append_nil]
  | cons c calls ih =>
    have rest := ih (made.call c)
    rwa [List.append_assoc] at rest

theorem MadeBy.mapOf (made : MadeBy calls m) : MapOf calls m := by
  induction made with
  | new making => exact mapOf_bare (properties_of_new making)
  | call made c map => exact map.call c

/-- Whatever has been called on a message and is called on it, its properties are a map of what was set, each to what it
    was set to last, and its content stays as it was written. -/
theorem staysMap (made : MadeBy earlier m) (calls : List TelemetryCall) :
    MapOf (earlier ++ calls) (m.callAll calls) ∧ SameContent m (m.callAll calls) :=
  ⟨(made.callAll calls).mapOf, sameContent_callAll m calls⟩

/-- A reading of a pump, and calls of which the last one that names a component has no name for it. -/
def pumpReading : TelemetryMessage := ⟨"\x7b\"pressure\":3\x7d", jsonContentType, utf8Encoding, []⟩
def pumpCalls : List TelemetryCall :=
  [.property "alert" "false", .property "$.sub" "valve", .component "", .property "alert" "true"]

theorem new_pumpReading : new .compact (.value (.obj [("pressure", .int 3)])) = .ok pumpReading := rfl

theorem staysMap_pump : MadeBy [.component "pump"] (pumpReading.component "pump") ∧
    ((pumpReading.component "pump").callAll pumpCalls).componentName = some "valve" ∧
    ((pumpReading.component "pump").callAll pumpCalls).propertyValue "unit" = none ∧
    ((pumpReading.component "pump").callAll pumpCalls).payload = pumpReading.payload := by
  have made : MadeBy [.component "pump"] (pumpReading.component "pump") :=
    (MadeBy.new new_pumpReading).call (.component "pump")
  obtain ⟨map, content⟩ := staysMap made pumpCalls
  refine ⟨made, (map.component "valve").mpr ?_, (map.absent "unit").mpr ?_, content.payload⟩
  · refine ⟨[.component "pump", .property "alert" "false"], _, _, rfl, .property "$.sub" "valve", ?_⟩
    simp [SetIn]
  · simp [SetIn, pumpCalls]

end TelemetryMessage
end DeviceTwin
