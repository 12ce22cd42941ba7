import DeviceTwin.Proofs.Json.Payload
import DeviceTwin.Proofs.Json.Places
import DeviceTwin.Proofs.Json.Reading

/-!
Values that are taken out of documents. A document that is held in memory is converted to a value by way of its text,
which the serializer writes; so the compact serializer converts it without its null fields. The text of the document
itself is read as the value of its shape and refused if it has another shape. The two agree but for one flag of a
thermostat, which is taken as unset where it is `null`, and for documents that are wanted as they are
(`Serializer.ofWire_agrees`).
-/
namespace DeviceTwin
open Json (Schema Exact IsDocument depthLimit)

/-! ### A field that is left out -/

namespace Json
variable {j : Json} {fields : Fields} {key : String}

/-- A document without one of its fields. -/
def without (key : String) : Json → Json
  | .obj fields => .obj (Assoc.erase key fields)
  | j => j

theorem fieldsWithoutNulls_erase (null : Assoc.find? key fields = some .null) :
    fieldsWithoutNulls (Assoc.erase key fields) = fieldsWithoutNulls fields := by
  induction fields with
  | nil => cases null
  | cons e fields ih =>
    obtain ⟨k, v⟩ := e
    rw [Assoc.find?] at null
    rw [Assoc.erase]
    split at null
    · rename_i same
      cases null
      rw [if_pos same]
      rfl
    · rename_i other
      rw [if_neg other, fieldsWithoutNulls, fieldsWithoutNulls, ih null]

/-- Of a document without its null fields it does not matter if one of them has been left out before. -/
theorem withoutNulls_without (null : j.get? key = some .null) : (j.without key).withoutNulls = j.withoutNulls := by
  cases j with
  | obj fields => exact congrArg Json.obj (fieldsWithoutNulls_erase null)
  | _ => rfl

theorem Exact.without (exact_ : Exact j) (key : String) : Exact (j.without key) := by
  cases exact_ with
  | null => exact .null
  | bool b => exact .bool b
  | int n => exact .int n
  | str s => exact .str s
  | arr inside => exact .arr inside
  | obj distinct inside =>
    exact .obj (Assoc.nodup_keys_erase key distinct) fun f member => inside f (Assoc.mem_erase member)

theorem get?_without (exact_ : Exact j) (key : String) : (j.without key).get? key = none := by
  cases exact_ with
  | obj distinct _ =>
    apply Assoc.find?_eq_none
    rw [Assoc.keys_erase]
    exact distinct.not_mem_erase
  | _ => rfl

end Json

/-! ### Types of values -/

/-- The types that a document is converted to: the values of payloads, the state of a thermostat, and any document. -/
inductive TargetType where
  | payload (t : PayloadType)
  | thermostat
  | document

namespace TargetType

def schema : TargetType → Schema
  | .payload t => t.schema
  | .thermostat => Thermostat.state
  | .document => .document

end TargetType

namespace ScalarType

theorem distinct_schema (s : ScalarType) : s.schema.Distinct := by
  rcases s with i | _ | _
  · cases i <;> trivial
  · trivial
  · trivial

theorem heedless_schema (s : ScalarType) : s.schema.Heedless := by
  rcases s with i | _ | _
  · cases i <;> trivial
  · trivial
  · trivial

end ScalarType

namespace PayloadType

theorem distinct_schema : (t : PayloadType) → t.schema.Distinct
  | .scalar s => s.distinct_schema
  | .unit => trivial
  | .optional s => s.distinct_schema
  | .sequence s => s.distinct_schema
  | .humidityRange => ⟨by decide, trivial, trivial, trivial, trivial⟩

/-- A required field of a range is no number where it is `null`, and a label that is `null` is none. -/
theorem heedless_schema : (t : PayloadType) → t.schema.Heedless
  | .scalar s => s.heedless_schema
  | .unit => trivial
  | .optional s => s.heedless_schema
  | .sequence s => s.heedless_schema
  | .humidityRange => by
    refine ⟨?_, trivial, trivial, trivial, trivial⟩
    simp only [List.forall_mem_cons]
    exact ⟨rfl, rfl, rfl, nofun⟩

end PayloadType

namespace Thermostat
open Json

theorem distinct_state : state.Distinct :=
  ⟨by decide, trivial, trivial, ⟨by decide, trivial, trivial, trivial⟩, trivial, trivial, trivial⟩

/-- The fields of a thermostat. -/
def stateFields : List (Json.Field Schema) :=
  match state with
  | .record _ declared => declared
  | _ => []

theorem heedless_stateFields : Schema.AllHeedless stateFields := by
  refine ⟨trivial, trivial, ⟨?_, trivial, trivial, trivial⟩, trivial, trivial, trivial⟩
  simp only [List.forall_mem_cons]
  exact ⟨rfl, rfl, nofun⟩

/-- But for the flag, a field that is `null` is as good as one that is not there. -/
theorem nullAsAbsent_stateFields : ∀ f ∈ stateFields, f.key ≠ "enabled" → f.NullAsAbsent := by
  simp only [stateFields, state, List.forall_mem_cons]
  exact ⟨fun _ => rfl, fun _ => rfl, fun _ => rfl, fun _ => rfl, fun other => absurd rfl other, nofun⟩

/-- A thermostat is the same without the null fields of a document, unless its flag is one of them. -/
theorem overlooks_state {j : Json} (exact_ : Exact j) (told : j.get? "enabled" ≠ some .null) : state.Overlooks j := by
  cases exact_ with
  | arr inside =>
    rename_i items
    have same : Schema.tupleOf? stateFields (itemsWithoutNulls items) = Schema.tupleOf? stateFields items :=
      tupleOf?_withoutNulls fun j member f declares =>
        overlooks (inside j member) f.schema (heedless_stateFields.of_mem declares)
    exact congrArg (Option.map Json.obj) same
  | obj distinct inside =>
    rename_i fields
    have same : Schema.recordOf? stateFields (fieldsWithoutNulls fields) = Schema.recordOf? stateFields fields := by
      refine recordOf?_withoutNulls distinct (fun f declares null => ?_) fun e member f declares =>
        overlooks (inside e member) f.schema (heedless_stateFields.of_mem declares)
      apply nullAsAbsent_stateFields f declares
      intro flag
      rw [flag] at null
      exact told null
    exact congrArg (Option.map Json.obj) same
  | _ => rfl

/-- No thermostat has a flag that is `null`. -/
theorem ofDocument?_state_null {j : Json} (null : j.get? "enabled" = some .null) : state.ofDocument? j = none := by
  cases j with
  | obj fields =>
    have flag : Schema.defaulted "enabled" .boolean (.bool false) ∈ stateFields := by
      simp [stateFields, state]
    have refused : (Schema.defaulted "enabled" .boolean (.bool false)).entryIn? fields = none := by
      have found : Assoc.find? "enabled" fields = some .null := null
      simp only [Field.entryIn?, Schema.defaulted, found]
      rfl
    exact congrArg (Option.map Json.obj) (Schema.recordOf?_eq_none flag refused)
  | _ => cases null

/-- Without the null fields a flag that is `null` is one that is not there. -/
theorem ofDocument?_state_withoutNulls {j : Json} (exact_ : Exact j) (null : j.get? "enabled" = some .null) :
    state.ofDocument? j.withoutNulls = state.ofDocument? (j.without "enabled") := by
  have told : (j.without "enabled").get? "enabled" ≠ some .null := by
    rw [get?_without exact_]
    nofun
  have same := overlooks_state (exact_.without "enabled") told
  rwa [Schema.Overlooks, withoutNulls_without null] at same

end Thermostat

/-! ### The two ways to a value -/

namespace TargetType
open Json

theorem distinct_schema : (t : TargetType) → t.schema.Distinct
  | .payload t => t.distinct_schema
  | .thermostat => Thermostat.distinct_state
  | .document => trivial

/-- The null fields of a document do not show in its value. They do if the document is wanted as it is, and if it were a
    thermostat but for a flag that is `null`. -/
def Unaffected : TargetType → Json → Prop
  | .payload _, _ => True
  | .thermostat, j => ¬ (j.get? "enabled" = some .null ∧ (Thermostat.state.ofDocument? (j.without "enabled")).isSome)
  | .document, j => ∀ p ∈ j.places, p.isNullField = false

theorem overlooks_iff (t : TargetType) {j : Json} (exact_ : Exact j) : t.schema.Overlooks j ↔ t.Unaffected j := by
  cases t with
  | payload t => exact iff_true_intro (overlooks exact_ t.schema t.heedless_schema)
  | thermostat =>
    rw [schema, Schema.Overlooks, Unaffected]
    by_cases null : j.get? "enabled" = some .null
    · rw [Thermostat.ofDocument?_state_withoutNulls exact_ null, Thermostat.ofDocument?_state_null null]
      simp [null]
    · have same := Thermostat.overlooks_state exact_ null
      rw [Schema.Overlooks] at same
      simp [same, null]
  | document =>
    rw [Unaffected, ← withoutNulls_eq_iff]
    exact Option.some_inj

end TargetType

namespace Serializer
open Json
variable {schema : Schema} {j : Json}

/-- The text of a document is read as the value that the document stands for, if it has the wanted shape. -/
theorem deserialize_print (s : Serializer) (document : IsDocument depthLimit j) (exact_ : Exact j)
    (distinct : schema.Distinct) : (s.deserialize schema j.print).toOption = schema.ofDocument? j := by
  rw [← read_print_as document exact_ distinct, deserialize]
  cases Json.read schema j.print <;> rfl

/-- A document in memory is converted to what its form stands for. -/
theorem ofWire_eq (s : Serializer) (document : IsDocument depthLimit j) (exact_ : Exact j)
    (distinct : schema.Distinct) : (s.ofWire schema j).toOption = schema.ofDocument? (s.form j) := by
  rw [← s.deserialize_print (s.isDocument_form document) (s.exact_form exact_) distinct, ofWire,
    s.serialize_document document]
  rfl

/-- From its text, a document is converted to the value that it stands for, and refused if it has another shape. A
    document in memory is converted to the same, unless a null field that the compact serializer leaves out shows in
    the value. -/
theorem ofWire_agrees (s : Serializer) (t : TargetType) (document : IsDocument depthLimit j) (exact_ : Exact j) :
    (s.deserialize t.schema j.print).toOption = t.schema.ofDocument? j ∧
      ((s.ofWire t.schema j).toOption = (s.deserialize t.schema j.print).toOption ↔
        s = .verbose ∨ t.Unaffected j) := by
  have reading := s.deserialize_print document exact_ t.distinct_schema
  refine ⟨reading, ?_⟩
  rw [reading, s.ofWire_eq document exact_ t.distinct_schema]
  cases s with
  | verbose => simp [form]
  | compact =>
    have same : t.schema.ofDocument? j.withoutNulls = t.schema.ofDocument? j ↔ t.Unaffected j := t.overlooks_iff exact_
    simpa [form] using same

/-- A thermostat in the hall, without a target, and with whatever is said of its flag. -/
def hall (flag : Fields) : Json :=
  .obj ([("name", .str "hall"), ("target", .null), ("range", .obj [("min", .int 18), ("max", .int 22)]),
    ("history", .arr [.int 19, .null])] ++ flag)

theorem isDocument_hall {flag : Fields} (inside : ∀ f ∈ flag, IsDocument 126 f.2) :
    IsDocument depthLimit (hall flag) := by
  have whole (depth : Nat) {n : Int} (low : 0 ≤ n) (high : n < 100) : IsDocument depth (.int n) := by
    refine .num depth (?_ : leastInt ≤ n ∧ n ≤ greatestInt)
    unfold leastInt greatestInt
    omega
  refine .obj (List.forall_mem_append.mpr ⟨?_, inside⟩)
  simp only [List.forall_mem_cons]
  refine ⟨.str 126 "hall", .null 126, .obj ?_, .arr ?_, List.forall_mem_nil _⟩
  · simp only [List.forall_mem_cons]
    exact ⟨whole 125 (by decide) (by decide), whole 125 (by decide) (by decide), List.forall_mem_nil _⟩
  · simp only [List.forall_mem_cons]
    exact ⟨whole 125 (by decide) (by decide), .null 125, List.forall_mem_nil _⟩

theorem exact_hall {flag : Fields} (distinct : (Assoc.keys flag).Nodup)
    (new : ∀ k ∈ Assoc.keys flag, k ∉ ["name", "target", "range", "history"]) (inside : ∀ f ∈ flag, Exact f.2) :
    Exact (hall flag) := by
  refine .obj ?_ (List.forall_mem_append.mpr ⟨?_, inside⟩)
  · rw [Assoc.keys, List.map_append, List.nodup_append]
    refine ⟨by decide, distinct, ?_⟩
    intro k before k' member same
    subst same
    exact new k member before
  · simp only [List.forall_mem_cons]
    refine ⟨.str "hall", .null, .obj (by decide) ?_, .arr ?_, List.forall_mem_nil _⟩
    · simp only [List.forall_mem_cons]
      exact ⟨.int 18, .int 22, List.forall_mem_nil _⟩
    · simp only [List.forall_mem_cons]
      exact ⟨.int 19, .null, List.forall_mem_nil _⟩

/-- The target that is not set, and the reading that is missing, are no matter. -/
theorem ofWire_agrees_hall : IsDocument depthLimit (hall []) ∧ Exact (hall []) ∧
    (compact.ofWire Thermostat.state (hall [])).toOption =
      (compact.deserialize Thermostat.state (hall []).print).toOption ∧
    (compact.deserialize Thermostat.state (hall []).print).toOption.isSome := by
  have document : IsDocument depthLimit (hall []) := isDocument_hall nofun
  have exact_ : Exact (hall []) := exact_hall List.nodup_nil nofun nofun
  obtain ⟨reading, agrees⟩ := compact.ofWire_agrees .thermostat document exact_
  refine ⟨document, exact_, agrees.mpr (.inr ?_), ?_⟩
  · rintro ⟨null, -⟩
    cases null
  · rw [TargetType.schema] at reading
    rw [reading]
    rfl

/-- A flag that is `null` is refused in the text, and is off in the value of the document itself. -/
theorem ofWire_differs_hall : IsDocument depthLimit (hall [("enabled", .null)]) ∧ Exact (hall [("enabled", .null)]) ∧
    (compact.deserialize Thermostat.state (hall [("enabled", .null)]).print).toOption = none ∧
    ∃ value, compact.ofWire Thermostat.state (hall [("enabled", .null)]) = .ok value ∧
      value.get? "enabled" = some (.bool false) := by
  have document : IsDocument depthLimit (hall [("enabled", .null)]) :=
    isDocument_hall (List.forall_mem_singleton.mpr (.null 126))
  have exact_ : Exact (hall [("enabled", .null)]) :=
    exact_hall (by decide) (by decide) (List.forall_mem_singleton.mpr .null)
  refine ⟨document, exact_, ?_, ?_⟩
  · rw [compact.deserialize_print document exact_ Thermostat.distinct_state]
    rfl
  · have converted := compact.ofWire_eq document exact_ Thermostat.distinct_state
    cases wire : compact.ofWire Thermostat.state (hall [("enabled", .null)]) with
    | error e =>
      rw [wire] at converted
      cases converted
    | ok value =>
      rw [wire] at converted
      refine ⟨value, rfl, ?_⟩
      rw [Option.some.inj converted]
      rfl

end Serializer
end DeviceTwin
