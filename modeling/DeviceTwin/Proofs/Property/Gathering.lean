import DeviceTwin.Proofs.Json.Typed
import DeviceTwin.Proofs.Property.Envelope
import DeviceTwin.Proofs.Property.Merge

/-!
Acknowledgements gathered in one patch. The patches that acknowledge single properties are merged one after the other
into a patch that starts empty. One more patch is absorbed without a loss (`Gathered.absorbed`): its property is
the one that it acknowledges, and every other property is what it was. So the patch that is gathered holds of every
property the acknowledgement that was built last, under keys in the order in which they came first
(`Convention.tryGetAck_gathered`).
-/
namespace DeviceTwin

/-- A further element is kept if it is new. -/
theorem eraseDups_concat {α : Type} [DecidableEq α] (l : List α) (a : α) :
    (l ++ [a]).eraseDups = if a ∈ l then l.eraseDups else l.eraseDups ++ [a] := by
  rw [List.eraseDups_append]
  by_cases there : a ∈ l
  · simp [List.removeAll, there]
  · simp [List.removeAll, there, List.eraseDups_cons]

/-! ### Patches -/

namespace Patch
variable {p : Patch} {key : String} {value : Json}

theorem merge_entry {q : Patch} (entries : q.entries = [(key, value)]) (p : Patch) :
    p.merge q = p.insert key (mergedValue (p.get? key) value) := by
  rw [merge, entries, List.foldl_cons, List.foldl_nil, mergeEntry_eq]

theorem get?_insert (p : Patch) (key k : String) (value : Json) :
    (p.insert key value).get? k = if key = k then some value else p.get? k :=
  Assoc.find?_insert key k value p.entries

theorem isSome_get? (p : Patch) (key : String) : (p.get? key).isSome ↔ key ∈ p.entries.keys :=
  Assoc.isSome_find? key p.entries

/-- Whether a key is that of a component is seen from what it holds. -/
theorem components_eq (p : Patch) :
    p.components = p.entries.keys.filter fun key => (p.get? key).any isComponent := by
  rw [components, Assoc.keys, List.filter_map]
  congr 1
  apply List.filter_congr
  intro f member
  simp [Function.comp_apply, mem_entries_iff.mp member]

/-- A component that is set where there is none, or nothing, is a component of the patch from then on. -/
theorem components_insert (same : ∀ j ∈ p.get? key, isComponent j = isComponent value) :
    components (p.insert key value) =
      if isComponent value = true ∧ key ∉ p.components then p.components ++ [key] else p.components := by
  have others (k : String) (other : key ≠ k) : (p.insert key value).get? k = p.get? k := by
    rw [get?_insert, if_neg other]
  rw [components_eq (p.insert key value)]
  have order : (p.insert key value).entries.keys = _ := Assoc.keys_insert key value p.entries
  by_cases there : key ∈ p.entries.keys
  · obtain ⟨j, found⟩ := Option.isSome_iff_exists.mp ((isSome_get? p key).mpr there)
    have listed : ¬ (isComponent value = true ∧ key ∉ p.components) := by
      rintro ⟨component, absent⟩
      exact absent (mem_components_iff.mpr ⟨j, found, (same j found).trans component⟩)
    rw [order, if_pos there, if_neg listed, components_eq p]
    apply List.filter_congr
    intro k _
    by_cases here : key = k
    · subst here
      simp [get?_insert, found, same j found]
    · rw [others k here]
  · have absent : key ∉ p.components := by
      intro listed
      obtain ⟨j, found, _⟩ := mem_components_iff.mp listed
      exact there ((isSome_get? p key).mp (Option.isSome_iff_exists.mpr ⟨j, found⟩))
    have before : (p.entries.keys.filter fun k => ((p.insert key value).get? k).any isComponent) = p.components := by
      rw [components_eq p]
      apply List.filter_congr
      intro k member
      rw [others k fun here => there (here ▸ member)]
    rw [order, if_neg there, List.filter_append, before]
    cases component : isComponent value with
    | true => simp [get?_insert, component, absent]
    | false => simp [get?_insert, component]

end Patch

/-- The object of a component takes over a property. -/
theorem mergedValue_nested {current : Option Json} (component : ∀ j ∈ current, isComponent j = true) {name : String}
    (unreserved : name ≠ markerKey) (value : Json) :
    ∃ group, mergedValue current (.obj [(markerKey, .str markerValue), (name, value)]) = .obj group ∧
      isMarked group = true ∧ Assoc.find? name group = some value ∧
      ∀ other, other ≠ name → other ≠ markerKey →
        Assoc.find? other group = (current.bind Json.fields?).bind (Assoc.find? other) := by
  have marked : isMarked [(markerKey, .str markerValue), (name, value)] = true := by simp [isMarked, Assoc.find?]
  have found : Assoc.find? name [(markerKey, .str markerValue), (name, value)] = some value := by
    simp [Assoc.find?, unreserved.symm]
  have none_ (other : String) (different : other ≠ name) (unmarked : other ≠ markerKey) :
      Assoc.find? other [(markerKey, .str markerValue), (name, value)] = none := by
    simp [Assoc.find?, different.symm, unmarked.symm]
  cases current with
  | none => exact ⟨_, rfl, marked, found, none_⟩
  | some j =>
    obtain ⟨fields, rfl, marked'⟩ := exists_fields_of_isComponent (component j rfl)
    have distinct : (Assoc.keys [(markerKey, Json.str markerValue), (name, value)]).Nodup := by
      simp [Assoc.keys, unreserved.symm]
    refine ⟨_, mergedValue_components marked' marked, isMarked_extend fields distinct marked, ?_, ?_⟩
    · rw [Assoc.find?_extend distinct, found, Option.some_or]
    · intro other different unmarked
      rw [Assoc.find?_extend distinct, none_ other different unmarked]
      rfl

/-! ### Acknowledgements that are built -/

/-- An acknowledgement of a property, with the patch that is built of it. -/
structure BuiltAck (c : Convention) where
  name : String
  component : Option String
  value : Datum
  code : AckCode
  version : Int64
  description : Option String
  patch : Patch
  built : c.buildAck name value code version description component = .ok patch

namespace BuiltAck
variable {c : Convention} {a b : BuiltAck c} {p p' : Patch}

/-- The component of the property, if it does not belong to the root interface. -/
def group? (a : BuiltAck c) : Option String :=
  componentName? a.component

/-- The key of the patch: the component, or else the property itself. -/
def key (a : BuiltAck c) : String :=
  a.group?.getD a.name

theorem exists_envelope (a : BuiltAck c) : a.name ≠ markerKey ∧ ∃ envelope, isComponent envelope = false ∧
    a.patch = Convention.singleEntry a.name envelope a.component := by
  obtain ⟨checked, j, _, patch⟩ := buildAck_ok a.built
  exact ⟨checkName_ne_marker checked, _, isComponent_encode c.style _, patch⟩

/-- A patch absorbs an acknowledgement: its property is the one that is acknowledged, and nothing else is changed. A
    property with the key of the acknowledgement is meant only if it is in the same group. -/
structure Absorbed (a : BuiltAck c) (p p' : Patch) : Prop where
  keys : p'.entries.keys = if a.key ∈ p.entries.keys then p.entries.keys else p.entries.keys ++ [a.key]
  components : p'.components =
    if a.group?.isSome = true ∧ a.key ∉ p.components then p.components ++ [a.key] else p.components
  own : p'.property a.name a.component = a.patch.property a.name a.component
  others : ∀ name component, ¬ (name = a.name ∧ componentName? component = a.group?) →
    ((componentName? component).getD name = a.key → componentName? component = a.group?) →
    p'.property name component = p.property name component

/-- A property of the root interface is absorbed where there is no component. -/
theorem absorbed_root (root : a.group? = none) (plain : ∀ j ∈ p.get? a.name, isComponent j = false) :
    a.Absorbed p (p.merge a.patch) := by
  obtain ⟨unreserved, envelope, unmarked, patch⟩ := a.exists_envelope
  have entries : a.patch.entries = [(a.name, envelope)] := by
    rw [patch]
    exact entries_singleEntry_root a.name envelope root
  have merged : p.merge a.patch = p.insert a.name envelope := by
    rw [Patch.merge_entry entries, mergedValue_plain unmarked]
  have key : a.key = a.name := by simp [BuiltAck.key, root]
  have own : a.patch.property a.name a.component = some envelope := by
    rw [patch]
    exact property_singleEntry unreserved envelope rfl
  refine ⟨?_, ?_, ?_, ?_⟩
  · rw [merged, key]
    exact Assoc.keys_insert a.name envelope p.entries
  · have same : ∀ j ∈ p.get? a.name, isComponent j = isComponent envelope := by simpa [unmarked] using plain
    rw [merged, Patch.components_insert same]
    simp [unmarked, root]
  · have addressed : componentName? a.component = none := root
    rw [own, merged, Patch.property, if_neg unreserved, addressed]
    simp [Patch.get?_insert]
  · intro name component different keys
    rw [merged]
    by_cases marker : name = markerKey
    · simp [Patch.property, marker]
    · rw [Patch.property, Patch.property, if_neg marker, if_neg marker]
      cases addressed : componentName? component with
      | none =>
        have other : a.name ≠ name := by
          intro same
          exact different ⟨same.symm, by rw [addressed, root]⟩
        simp [Patch.get?_insert, other]
      | some k =>
        have other : a.name ≠ k := by
          intro same
          have group := keys (by rw [addressed, key, same]; rfl)
          rw [addressed, root] at group
          cases group
        simp [Patch.component?, Patch.get?_insert, other]

/-- A property of a component is absorbed where there is nothing but the component. -/
theorem absorbed_nested {k : String} (nested : a.group? = some k) (component : ∀ j ∈ p.get? k, isComponent j = true) :
    a.Absorbed p (p.merge a.patch) := by
  obtain ⟨unreserved, envelope, _, patch⟩ := a.exists_envelope
  have entries : a.patch.entries = [(k, .obj [(markerKey, .str markerValue), (a.name, envelope)])] := by
    rw [patch]
    exact entries_singleEntry_component unreserved envelope nested
  obtain ⟨group, value, marked, found, rest⟩ := mergedValue_nested component unreserved envelope
  have merged : p.merge a.patch = p.insert k (.obj group) := by
    rw [Patch.merge_entry entries, value]
  have key : a.key = k := by simp [BuiltAck.key, nested]
  have own : a.patch.property a.name a.component = some envelope := by
    rw [patch]
    exact property_singleEntry unreserved envelope rfl
  refine ⟨?_, ?_, ?_, ?_⟩
  · rw [merged, key]
    exact Assoc.keys_insert k (.obj group) p.entries
  · have same : ∀ j ∈ p.get? k, isComponent j = isComponent (.obj group) := by
      simpa [isComponent_obj, marked] using component
    rw [merged, Patch.components_insert same]
    simp [isComponent_obj, marked, nested, key]
  · have addressed : componentName? a.component = some k := nested
    rw [own, merged, Patch.property, if_neg unreserved, addressed]
    simp [Patch.component?, Patch.get?_insert, Json.fields?, found]
  · intro name component' different keys
    rw [merged]
    by_cases marker : name = markerKey
    · simp [Patch.property, marker]
    · rw [Patch.property, Patch.property, if_neg marker, if_neg marker]
      cases addressed : componentName? component' with
      | none =>
        have other : k ≠ name := by
          intro same
          have none_ := keys (by rw [addressed, key, same]; rfl)
          rw [addressed, nested] at none_
          cases none_
        simp [Patch.get?_insert, other]
      | some k' =>
        by_cases here : k = k'
        · subst here
          have other : name ≠ a.name := by
            intro same
            exact different ⟨same, by rw [addressed, nested]⟩
          simp [Patch.component?, Patch.get?_insert, Json.fields?, rest name other marker]
        · simp [Patch.component?, Patch.get?_insert, here]

/-! ### Gathering -/

/-- The patches of acknowledgements, merged one after the other. -/
def gather (acks : List (BuiltAck c)) : Patch :=
  (acks.map (·.patch)).foldl Patch.merge .empty

/-- No component has the name of a property of the root interface. -/
def Unmixed (acks : List (BuiltAck c)) : Prop :=
  ∀ a ∈ acks, ∀ b ∈ acks, a.group? = none → b.group? ≠ some a.name

/-- A patch holds what some acknowledgements leave, and of every property the last of them. -/
structure Gathered (acks : List (BuiltAck c)) (p : Patch) : Prop where
  keys : p.entries.keys = (acks.map key).eraseDups
  components : p.components = (acks.filterMap group?).eraseDups
  latest : ∀ before a after, acks = before ++ a :: after →
    (∀ b ∈ after, ¬ (a.name = b.name ∧ a.group? = b.group?)) →
    p.property a.name a.component = a.patch.property a.name a.component

variable {acks : List (BuiltAck c)}

/-- A key is that of a component exactly if an acknowledgement is for a property of this component. -/
theorem Gathered.isComponent_iff (gathered : Gathered acks p) {k : String} {j : Json} (found : p.get? k = some j) :
    isComponent j = true ↔ ∃ b ∈ acks, b.group? = some k := by
  have listed : k ∈ p.components ↔ ∃ b ∈ acks, b.group? = some k := by
    rw [gathered.components, List.mem_eraseDups, List.mem_filterMap]
  rw [← listed, Patch.mem_components_iff]
  constructor
  · intro component
    exact ⟨j, found, component⟩
  · rintro ⟨j', found', component⟩
    rw [found] at found'
    cases found'
    exact component

theorem Gathered.absorbed (gathered : Gathered acks p) (unmixed : Unmixed (acks ++ [a])) :
    a.Absorbed p (p.merge a.patch) := by
  have last : a ∈ acks ++ [a] := by simp
  cases group : a.group? with
  | none =>
    apply absorbed_root group
    intro j found
    apply Bool.eq_false_iff.mpr
    intro component
    obtain ⟨b, member, nested⟩ := (gathered.isComponent_iff found).mp component
    exact unmixed a last b (List.mem_append_left _ member) group nested
  | some k =>
    apply absorbed_nested group
    intro j found
    have member : k ∈ acks.map key := by
      rw [← List.mem_eraseDups, ← gathered.keys]
      exact (Patch.isSome_get? p k).mp (Option.isSome_iff_exists.mpr ⟨j, found⟩)
    obtain ⟨b, inside, rfl⟩ := List.mem_map.mp member
    apply (gathered.isComponent_iff found).mpr
    refine ⟨b, inside, ?_⟩
    cases root : b.group? with
    | none =>
      have name : b.key = b.name := by simp [BuiltAck.key, root]
      exact absurd (name ▸ group) (unmixed b (List.mem_append_left _ inside) a last root)
    | some k => simp [BuiltAck.key, root]

/-- One more acknowledgement is gathered by a merge. -/
theorem Gathered.merge (gathered : Gathered acks p) (unmixed : Unmixed (acks ++ [a])) :
    Gathered (acks ++ [a]) (p.merge a.patch) := by
  have absorbed := gathered.absorbed unmixed
  refine ⟨?_, ?_, ?_⟩
  · rw [absorbed.keys, gathered.keys, List.map_append, List.map_cons, List.map_nil, eraseDups_concat]
    simp only [List.mem_eraseDups]
  · rw [absorbed.components, gathered.components, List.filterMap_append]
    cases group : a.group? with
    | none => simp [group]
    | some k =>
      have here : a.key = k := by simp [BuiltAck.key, group]
      have one : [a].filterMap group? = [k] := by simp [group]
      rw [one, eraseDups_concat, here]
      by_cases there : k ∈ acks.filterMap group?
      · simp only [List.mem_eraseDups, there, not_true, and_false, if_false, if_true]
      · simp only [List.mem_eraseDups, there, not_false_eq_true, and_true, Option.isSome_some, if_true, if_false]
  · intro before b after split last
    rcases concat_eq_append_cons.mp split with ⟨_, _, rfl⟩ | ⟨after', rfl, rfl⟩
    · exact absorbed.own
    · rw [List.forall_mem_append, List.forall_mem_singleton] at last
      rw [absorbed.others b.name b.component last.2, gathered.latest before b after' rfl last.1]
      intro keys
      -- Under one key there are either properties of one component, or one property of the root interface.
      have inside : b ∈ before ++ b :: after' ++ [a] := by simp
      have added : a ∈ before ++ b :: after' ++ [a] := by simp
      change b.group? = a.group?
      change b.group?.getD b.name = a.group?.getD a.name at keys
      cases own : b.group? with
      | none =>
        cases other : a.group? with
        | none => rfl
        | some k =>
          simp only [own, other, Option.getD_none, Option.getD_some] at keys
          exact absurd (keys ▸ other) (unmixed b inside a added own)
      | some k =>
        cases other : a.group? with
        | none =>
          simp only [own, other, Option.getD_none, Option.getD_some] at keys
          exact absurd (keys ▸ own) (unmixed a added b inside other)
        | some k' =>
          simp only [own, other, Option.getD_some] at keys
          rw [keys]

theorem Gathered.merge_all (gathered : Gathered acks p) {more : List (BuiltAck c)} (unmixed : Unmixed (acks ++ more)) :
    Gathered (acks ++ more) ((more.map (·.patch)).foldl Patch.merge p) := by
  induction more generalizing acks p with
  | nil => simpa using gathered
  | cons a more ih =>
    have split : acks ++ a :: more = acks ++ [a] ++ more := by simp
    rw [split] at unmixed ⊢
    have first : Unmixed (acks ++ [a]) := by
      intro b member d member'
      exact unmixed b (List.mem_append_left _ member) d (List.mem_append_left _ member')
    exact ih (gathered.merge first) unmixed

theorem gathered_gather (unmixed : Unmixed acks) : Gathered acks (gather acks) := by
  have none_ : Gathered ([] : List (BuiltAck c)) .empty := by
    refine ⟨rfl, rfl, ?_⟩
    intro before a after split
    simp at split
  exact none_.merge_all unmixed

end BuiltAck

namespace Convention
open BuiltAck

/-- What a convention reads of an acknowledgement is what it reads of the property, however the root interface is
    addressed. -/
theorem tryGetAck_congr {p q : Patch} {name : String} {component component' : Option String}
    (same : p.property name component = q.property name component)
    (addressed : componentName? component' = componentName? component) (c : Convention) (schema : Json.Schema) :
    c.tryGetAck schema p name component' = c.tryGetAck schema q name component' := by
  have respelled (r : Patch) : r.property name component' = r.property name component := by
    simp only [Patch.property, addressed]
  simp only [tryGetAck, respelled, same]

/-- The patches of acknowledgements are merged without a loss: of every property the acknowledgement that was built last
    is read as it is read in its own patch. The components, and the keys altogether, stand in the order in which they
    came first. -/
theorem tryGetAck_gathered (c : Convention) (acks : List (BuiltAck c)) (unmixed : Unmixed acks) :
    (∀ before a after, acks = before ++ a :: after →
      (∀ b ∈ after, ¬ (a.name = b.name ∧ a.group? = b.group?)) →
      ∀ schema component, componentName? component = a.group? →
        c.tryGetAck schema (gather acks) a.name component = c.tryGetAck schema a.patch a.name component) ∧
    (gather acks).components = (acks.filterMap group?).eraseDups ∧
    (gather acks).entries.keys = (acks.map key).eraseDups := by
  have gathered := gathered_gather unmixed
  refine ⟨?_, gathered.components, gathered.keys⟩
  intro before a after split last schema component addressed
  exact tryGetAck_congr (gathered.latest before a after split last) addressed c schema

/-- The value 3, acknowledged in some version. -/
def acknowledgedThree (name : String) (component : Option String) (version : Int64)
    (checked : checkName name = .ok ()) : BuiltAck default :=
  have document : Json.IsDocument Json.depthLimit (.int 3) := .num _ ⟨by decide, by decide⟩
  ⟨name, component, .value (.int 3), .completed, version, none, _,
    buildAck_of_ok checked (Serializer.compact.toWire_exact document (.int 3))⟩

/-- Two properties of one component, one of another, and one of the root interface; two of them twice. -/
def pumpAcks : List (BuiltAck default) :=
  [acknowledgedThree "mode" none 1 rfl, acknowledgedThree "speed" (some "pump") 1 rfl,
    acknowledgedThree "valve" (some "pump") 2 rfl, acknowledgedThree "mode" (some "") 3 rfl,
    acknowledgedThree "speed" (some "pump") 4 rfl, acknowledgedThree "speed" (some "fan") 5 rfl]

theorem tryGetAck_gathered_pump :
    Unmixed pumpAcks ∧
      default.tryGetAck .u8 (gather pumpAcks) "speed" (some "pump") =
        default.tryGetAck .u8 (acknowledgedThree "speed" (some "pump") 4 rfl).patch "speed" (some "pump") ∧
      (gather pumpAcks).components = ["pump", "fan"] ∧
      (gather pumpAcks).entries.keys = ["mode", "pump", "fan"] := by
  have unmixed : Unmixed pumpAcks := by
    unfold Unmixed pumpAcks
    decide
  obtain ⟨latest, components, keys⟩ := tryGetAck_gathered default pumpAcks unmixed
  have last := latest (pumpAcks.take 4) (acknowledgedThree "speed" (some "pump") 4 rfl) (pumpAcks.drop 5) rfl
    (by unfold pumpAcks; decide) .u8 (some "pump") rfl
  refine ⟨unmixed, last, components.trans ?_, keys.trans ?_⟩
  · decide
  · decide

end Convention
end DeviceTwin
