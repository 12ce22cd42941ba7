import DeviceTwin.Proofs.Json.Wide
import DeviceTwin.Proofs.Property.Envelope

/-!
Natural numbers of 128 bits as values of properties. A patch is built of every number that a document holds, and the
number is read there again; beyond that the compact serializer refuses to build the patch. The verbose one builds it
with another number (`Convention.preserves_iff`).
-/
namespace DeviceTwin
open Json (greatestInt)

namespace Convention
variable {c : Convention} {name : String} {value : Datum} {n : BitVec 128} {code : AckCode} {version : Int64}
  {description component : Option String} {patch : Patch}

/-! ### Reports -/

/-- A name and a value that are fit for it have a patch that reports them. -/
theorem buildReport_of_ok {j : Json} (checked : checkName name = .ok ()) (wire : c.serializer.toWire value = .ok j) :
    c.buildReport name value component = .ok (singleEntry name j component) := by
  simp [buildReport, checked, wire, bind, Except.bind, pure, Except.pure]

/-- What is needed for a patch that reports a property, and what it holds. -/
theorem buildReport_ok (built : c.buildReport name value component = .ok patch) :
    checkName name = .ok () ∧ ∃ j, c.serializer.toWire value = .ok j ∧ patch = singleEntry name j component := by
  unfold buildReport at built
  cases checked : checkName name with
  | error e => simp [checked, bind, Except.bind] at built
  | ok u =>
    cases wire : c.serializer.toWire value with
    | error e => simp [checked, wire, bind, Except.bind] at built
    | ok j =>
      simp only [checked, wire, bind, Except.bind, pure, Except.pure, Except.ok.injEq] at built
      exact ⟨rfl, j, rfl, built.symm⟩

/-- A patch that reports a property is read as its value, if this converts. -/
theorem tryGet_buildReport (schema : Json.Schema) (built : c.buildReport name value component = .ok patch) :
    ∃ j, c.serializer.toWire value = .ok j ∧
      c.tryGet schema patch name component = (c.serializer.ofWire schema j).map some := by
  obtain ⟨checked, j, wire, rfl⟩ := buildReport_ok built
  refine ⟨j, wire, ?_⟩
  simp only [tryGet, property_singleEntry (checkName_ne_marker checked) _ rfl, bind, Except.bind, pure, Except.pure]
  cases c.serializer.ofWire schema j <;> rfl

/-! ### Numbers of 128 bits -/

/-- A number as it is handed to a serializer. -/
def wide (n : BitVec 128) : Json := .int n.toNat

/-- In every patch that is built of a number, this number is read. -/
structure Preserves (c : Convention) (name : String) (n : BitVec 128) (code : AckCode) (version : Int64)
    (description component : Option String) : Prop where
  report : ∀ patch, c.buildReport name (.value (wide n)) component = .ok patch →
    c.tryGet .wide patch name component = .ok (some (wide n))
  ack : ∀ patch, c.buildAck name (.value (wide n)) code version description component = .ok patch →
    c.tryGetAck .wide patch name component = .ok (some ⟨wide n, code, version, description⟩)

/-- No patch is built of a number. -/
structure Refuses (c : Convention) (name : String) (n : BitVec 128) (code : AckCode) (version : Int64)
    (description component : Option String) (e : TwinError) : Prop where
  report : c.buildReport name (.value (wide n)) component = .error e
  ack : c.buildAck name (.value (wide n)) code version description component = .error e

/-- Patches are built of a number. -/
structure Builds (c : Convention) (name : String) (n : BitVec 128) (code : AckCode) (version : Int64)
    (description component : Option String) : Prop where
  report : ∃ patch, c.buildReport name (.value (wide n)) component = .ok patch
  ack : ∃ patch, c.buildAck name (.value (wide n)) code version description component = .ok patch

variable (code version description component)

/-- A number that is itself in a document is read in every patch. -/
theorem preserves_of_ofWire (wire : c.serializer.toWire (.value (wide n)) = .ok (wide n))
    (read : c.serializer.ofWire .wide (wide n) = .ok (wide n)) :
    c.Preserves name n code version description component := by
  constructor
  · intro patch built
    obtain ⟨j, wire', reads⟩ := tryGet_buildReport .wide built
    rw [wire, Except.ok.injEq] at wire'
    rw [reads, ← wire', read]
    rfl
  · intro patch built
    obtain ⟨j, wire', reads⟩ := tryGetAck_buildAck .wide rfl built
    rw [wire, Except.ok.injEq] at wire'
    rw [reads, ← wire', read]
    rfl

theorem builds_of_toWire {j : Json} (checked : checkName name = .ok ())
    (wire : c.serializer.toWire (.value (wide n)) = .ok j) : c.Builds name n code version description component :=
  ⟨⟨_, buildReport_of_ok checked wire⟩, ⟨_, buildAck_of_ok checked wire⟩⟩

theorem refuses_of_toWire {e : TwinError} (checked : checkName name = .ok ())
    (refused : c.serializer.toWire (.value (wide n)) = .error e) :
    c.Refuses name n code version description component e := by
  constructor
  · simp [buildReport, checked, refused, bind, Except.bind]
  · simp [buildAck, checked, refused, bind, Except.bind]

theorem preserves_of_refuses {e : TwinError} (refuses : c.Refuses name n code version description component e) :
    c.Preserves name n code version description component := by
  constructor
  · intro patch built
    rw [refuses.report] at built
    cases built
  · intro patch built
    rw [refuses.ack] at built
    cases built

/-- Of a number that no document can hold the verbose serializer makes another one. -/
theorem toWire_wide_verbose (verbose : c.serializer = .verbose) (large : greatestInt < n.toNat) :
    ∃ y, c.serializer.toWire (.value (wide n)) = .ok (.num (.double y)) := by
  rw [verbose]
  exact Serializer.toWire_verbose_large large (Nat.le_of_lt_succ n.isLt)

theorem not_preserves_verbose (checked : checkName name = .ok ()) (verbose : c.serializer = .verbose)
    (large : greatestInt < n.toNat) : ¬ c.Preserves name n code version description component := by
  intro preserves
  obtain ⟨y, wire⟩ := toWire_wide_verbose verbose large
  obtain ⟨e, refused⟩ := c.serializer.ofWire_wide_double y
  have built : c.buildReport name (.value (wide n)) component = .ok _ := buildReport_of_ok checked wire
  obtain ⟨j, wire', reads⟩ := tryGet_buildReport .wide built
  rw [wire, Except.ok.injEq] at wire'
  rw [preserves.report _ built, ← wire', refused] at reads
  cases reads

/-- A number is read in every patch that is built of it, exactly if the serializer is the compact one or a document can
    hold the number. The compact serializer refuses the other numbers, and the verbose one builds patches of them. -/
theorem preserves_iff (c : Convention) (name : String) (named : name ≠ "") (unreserved : name ≠ markerKey)
    (n : BitVec 128) (code : AckCode) (version : Int64) (description component : Option String) :
    (c.Preserves name n code version description component ↔
      c.serializer = .compact ∨ (n.toNat : Int) ≤ greatestInt) ∧
    (c.serializer = .verbose ∨ (n.toNat : Int) ≤ greatestInt → c.Builds name n code version description component) ∧
    (c.serializer = .compact → greatestInt < n.toNat →
      c.Refuses name n code version description component (.unwritable .numberOutOfRange)) := by
  have checked : checkName name = .ok () := checkName_ok_iff.2 ⟨named, unreserved⟩
  have refuses (compact : c.serializer = .compact) (large : greatestInt < n.toNat) :
      c.Refuses name n code version description component (.unwritable .numberOutOfRange) := by
    refine refuses_of_toWire code version description component checked ?_
    rw [compact]
    exact Serializer.toWire_compact_large large
  refine ⟨⟨fun preserves => ?_, fun fit => ?_⟩, fun fit => ?_, refuses⟩
  · cases serializer : c.serializer with
    | compact => exact .inl rfl
    | verbose =>
      refine .inr (not_lt.1 fun large => ?_)
      exact not_preserves_verbose code version description component checked serializer large preserves
  · by_cases small : (n.toNat : Int) ≤ greatestInt
    · exact preserves_of_ofWire code version description component (Serializer.toWire_natural small)
        (Serializer.ofWire_wide_natural small)
    · have compact : c.serializer = .compact := fit.resolve_right small
      exact preserves_of_refuses code version description component (refuses compact (not_le.1 small))
  · by_cases small : (n.toNat : Int) ≤ greatestInt
    · exact builds_of_toWire code version description component checked (Serializer.toWire_natural small)
    · obtain ⟨y, wire⟩ := toWire_wide_verbose (fit.resolve_right small) (not_le.1 small)
      exact builds_of_toWire code version description component checked wire

/-- The greatest number of 64 bits in a component, and the next one under the compact serializer. -/
theorem preserves_greatest :
    "total" ≠ "" ∧ "total" ≠ markerKey ∧
      Preserves ⟨.verbose, .structured⟩ "total" 0xFFFFFFFFFFFFFFFF .completed 7 none (some "meter") ∧
      Builds ⟨.verbose, .structured⟩ "total" 0xFFFFFFFFFFFFFFFF .completed 7 none (some "meter") ∧
      Refuses default "total" 0x10000000000000000 .inProgress 7 (some "counting") none
        (.unwritable .numberOutOfRange) := by
  obtain ⟨exactly, builds, _⟩ := preserves_iff ⟨.verbose, .structured⟩ "total" (by decide) (by decide)
    0xFFFFFFFFFFFFFFFF .completed 7 none (some "meter")
  obtain ⟨_, _, refuses⟩ := preserves_iff default "total" (by decide) (by decide) 0x10000000000000000 .inProgress 7
    (some "counting") none
  exact ⟨by decide, by decide, exactly.2 (.inr (by decide)), builds (.inl rfl), refuses rfl (by decide)⟩

/-- The verbose serializer reports another number than it is given, and what it reports is no natural number. -/
theorem wide_altered :
    ∃ patch, buildReport ⟨.verbose, .twinCollection⟩ "a" (.value (wide 18446744073709551617)) none = .ok patch ∧
      patch.toJson.print = "\x7b\"a\":1.8446744073709552e+19\x7d" ∧
      ∃ e, tryGet ⟨.verbose, .twinCollection⟩ .wide patch "a" none = .error e := by
  have altered : Except.toOption
      ((buildReport ⟨.verbose, .twinCollection⟩ "a" (.value (wide 18446744073709551617)) none).map fun patch =>
        (patch.toJson.print, (tryGet ⟨.verbose, .twinCollection⟩ .wide patch "a" none).toOption.isNone)) =
      some ("\x7b\"a\":1.8446744073709552e+19\x7d", true) := by
    decide +kernel
  cases built : buildReport ⟨.verbose, .twinCollection⟩ "a" (.value (wide 18446744073709551617)) none with
  | error e =>
    rw [built] at altered
    cases altered
  | ok patch =>
    rw [built] at altered
    simp only [Except.map, Except.toOption, Option.some.injEq, Prod.mk.injEq] at altered
    refine ⟨patch, rfl, altered.1, ?_⟩
    cases read : tryGet ⟨.verbose, .twinCollection⟩ .wide patch "a" none with
    | error e => exact ⟨e, rfl⟩
    | ok value => simp [read] at altered

end Convention
end DeviceTwin
