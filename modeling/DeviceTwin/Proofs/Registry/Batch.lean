import DeviceTwin.Proofs.Registry.Checks
import Mathlib.Data.List.Forall2

/-!
Batches of devices. A batch is accepted exactly if it has the right size and no device of it is at fault, given those
in front of it; otherwise the error is about the size or about the first device that is at fault (`BatchFault`). The
check of one device is `fault?`, and that of a whole batch stops at the first one that has something to say
(`batchFrom_eq_error`).
-/
namespace DeviceTwin.Registry

/-! ### Faults -/

/-- What is said of a device that may not stand in a batch behind others. -/
inductive DeviceFault (mode : ImportMode) (before : List Device) (d : Device) : String → Prop where
  | unnamed (blank : ¬ IsIdentifier d.id) : DeviceFault mode before d "The device identifier must not be empty"
  | repeated (named : IsIdentifier d.id) (earlier : ∃ other ∈ before, other.id = d.id) :
      DeviceFault mode before d s!"Device `{d.id}` appears more than once"
  | untagged (named : IsIdentifier d.id) (new : ∀ other ∈ before, other.id ≠ d.id)
      (needed : mode = .updateIfMatchTag ∨ mode = .deleteIfMatchTag)
      (blank : ∀ tag, d.etag = some tag → Text.isBlankText tag = true) :
      DeviceFault mode before d s!"Device `{d.id}` has no ETag, set it or force the operation"

/-- What is said of devices that cannot be sent in one request: their number is wrong, or else the first device that is
    at fault is named. -/
inductive BatchFault (mode : ImportMode) (devices : List Device) : String → Prop where
  | size (wrong : devices = [] ∨ 100 < devices.length) :
      BatchFault mode devices s!"A bulk request needs between 1 and 100 devices, found {devices.length}"
  | device {before after : List Device} {d : Device} {text : String} (place : devices = before ++ d :: after)
      (few : devices.length ≤ 100)
      (first : ∀ front other back, before = front ++ other :: back → ∀ text, ¬ DeviceFault mode front other text)
      (fault : DeviceFault mode before d text) : BatchFault mode devices text

variable {mode : ImportMode} {seen : List String} {before : List Device} {devices : List Device} {d : Device}
  {e : RegistryError}

/-- What the check of a device finds, behind the identifiers `seen`. -/
def fault? (mode : ImportMode) (seen : List String) (d : Device) : Option RegistryError :=
  if Text.isBlankText d.id then some (.emptyIdentifier .device)
  else if d.id ∈ seen then some (.repeatedDevice d.id)
  else if mode.needsTag = true ∧ hasTag d.etag = false then some (.deviceWithoutTag d.id)
  else none

theorem needsTag_iff : mode.needsTag = true ↔ mode = .updateIfMatchTag ∨ mode = .deleteIfMatchTag := by
  cases mode <;> decide

theorem hasTag_eq_false {etag : Option String} :
    hasTag etag = false ↔ ∀ tag, etag = some tag → Text.isBlankText tag = true := by
  cases etag <;> simp [hasTag]

/-- What is said of a device is what its check finds. -/
theorem deviceFault_iff {text : String} (same : ∀ id, id ∈ seen ↔ ∃ other ∈ before, other.id = id) :
    DeviceFault mode before d text ↔ ∃ e, fault? mode seen d = some e ∧ e.message = text := by
  have new : d.id ∉ seen ↔ ∀ other ∈ before, other.id ≠ d.id := by
    rw [same]
    simp
  constructor
  · intro fault
    cases fault with
    | unnamed blank => exact ⟨_, if_pos (by simpa [IsIdentifier] using blank), rfl⟩
    | repeated named earlier =>
      refine ⟨.repeatedDevice d.id, ?_, rfl⟩
      rw [fault?, if_neg (by simpa [IsIdentifier] using named), if_pos ((same d.id).mpr earlier)]
    | untagged named fresh needed blank =>
      refine ⟨.deviceWithoutTag d.id, ?_, rfl⟩
      rw [fault?, if_neg (by simpa [IsIdentifier] using named), if_neg (new.mpr fresh),
        if_pos ⟨needsTag_iff.mpr needed, hasTag_eq_false.mpr blank⟩]
  · rintro ⟨e, found, rfl⟩
    rw [fault?] at found
    split at found
    · rename_i blank
      cases found
      exact .unnamed (by simpa [IsIdentifier] using blank)
    rename_i named
    have named : IsIdentifier d.id := by simpa [IsIdentifier] using named
    split at found
    · rename_i earlier
      cases found
      exact .repeated named ((same d.id).mp earlier)
    rename_i fresh
    split at found
    · rename_i untagged
      cases found
      exact .untagged named (new.mp fresh) (needsTag_iff.mp untagged.1) (hasTag_eq_false.mp untagged.2)
    · cases found

/-! ### Checking one device after the other -/

/-- The first device of a batch is checked before the others. -/
theorem batchFrom_cons (mode : ImportMode) (seen : List String) (d : Device) (rest : List Device) :
    batchFrom mode seen (d :: rest) =
      match fault? mode seen d with
      | some e => .error e
      | none => (batchFrom mode (d.id :: seen) rest).map (.ofDevice mode d :: ·) := by
  rw [batchFrom, fault?, checkId]
  by_cases blank : Text.isBlankText d.id = true
  · simp [blank, bind, Except.bind]
  by_cases earlier : d.id ∈ seen
  · simp [blank, earlier, bind, Except.bind, throw, throwThe, MonadExceptOf.throw]
  by_cases untagged : mode.needsTag = true ∧ hasTag d.etag = false
  · simp [blank, earlier, untagged, bind, Except.bind, throw, throwThe, MonadExceptOf.throw]
  · have contained : seen.contains d.id = false := by simpa using earlier
    have tagged : (mode.needsTag && !hasTag d.etag) = false := by simpa using untagged
    rw [if_neg blank, if_neg blank, if_neg earlier, if_neg untagged, contained, tagged]
    simp only [bind, Except.bind, Bool.false_eq_true, if_false]
    cases batchFrom mode (d.id :: seen) rest <;> rfl

/-- The identifiers that have been seen behind some devices. -/
def seenBehind (seen : List String) (before : List Device) : List String :=
  (before.map (·.id)).reverse ++ seen

theorem seenBehind_cons (seen : List String) (d : Device) (before : List Device) :
    seenBehind seen (d :: before) = seenBehind (d.id :: seen) before := by
  simp [seenBehind]

/-- A batch is refused for the first device that is at fault. -/
theorem batchFrom_eq_error : batchFrom mode seen devices = .error e ↔
    ∃ before d after, devices = before ++ d :: after ∧
      (∀ front other back, before = front ++ other :: back → fault? mode (seenBehind seen front) other = none) ∧
      fault? mode (seenBehind seen before) d = some e := by
  induction devices generalizing seen with
  | nil => simp [batchFrom]
  | cons x rest ih =>
    rw [batchFrom_cons]
    cases found : fault? mode seen x with
    | some e' =>
      constructor
      · intro same
        cases same
        exact ⟨[], x, rest, rfl, by simp, found⟩
      · rintro ⟨before, d, after, place, first, fault⟩
        cases before with
        | nil =>
          obtain ⟨rfl, rfl⟩ := List.cons.inj place
          rw [seenBehind, List.map_nil, List.reverse_nil, List.nil_append, found] at fault
          rw [Option.some.inj fault]
        | cons y before =>
          obtain ⟨rfl, -⟩ := List.cons.inj place
          have clean : fault? mode seen x = none := first [] x before rfl
          rw [found] at clean
          cases clean
    | none =>
      have passed : (batchFrom mode (x.id :: seen) rest).map (.ofDevice mode x :: ·) = .error e ↔
          batchFrom mode (x.id :: seen) rest = .error e := by
        cases batchFrom mode (x.id :: seen) rest <;> simp [Except.map]
      rw [passed, ih]
      constructor
      · rintro ⟨before, d, after, rfl, first, fault⟩
        refine ⟨x :: before, d, after, rfl, fun front other back place => ?_, by rwa [seenBehind_cons]⟩
        cases front with
        | nil =>
          obtain ⟨rfl, -⟩ := List.cons.inj place
          exact found
        | cons y front =>
          obtain ⟨rfl, place'⟩ := List.cons.inj place
          rw [seenBehind_cons]
          exact first front other back place'
      · rintro ⟨before, d, after, place, first, fault⟩
        cases before with
        | nil =>
          obtain ⟨rfl, -⟩ := List.cons.inj place
          have clean : fault? mode seen x = some e := fault
          rw [found] at clean
          cases clean
        | cons y before =>
          obtain ⟨rfl, rfl⟩ := List.cons.inj place
          rw [seenBehind_cons] at fault
          refine ⟨before, d, after, rfl, fun front other back place => ?_, fault⟩
          rw [← seenBehind_cons]
          exact first (x :: front) other back (congrArg _ place)

/-! ### Whole batches -/

/-- The entry for a device in a batch. -/
structure IsEntryOf (mode : ImportMode) (d : Device) (entry : BulkEntry) : Prop where
  id : entry.id = d.id
  moduleId : entry.moduleId = none
  etag : entry.etag = d.etag
  importMode : entry.importMode = mode
  status : entry.status = d.status
  statusReason : entry.statusReason = d.statusReason
  authentication : entry.authentication = d.authentication
  capabilities : entry.capabilities = d.capabilities
  deviceScope : entry.deviceScope = d.deviceScope

theorem isEntryOf_iff {entry : BulkEntry} : IsEntryOf mode d entry ↔ .ofDevice mode d = entry := by
  constructor
  · intro is
    obtain ⟨⟩ := entry
    obtain ⟨rfl, rfl, rfl, rfl, rfl, rfl, rfl, rfl, rfl⟩ := is
    rfl
  · rintro rfl
    exact ⟨rfl, rfl, rfl, rfl, rfl, rfl, rfl, rfl, rfl⟩

theorem deviceFault_behind {text : String} :
    DeviceFault mode before d text ↔ ∃ e, fault? mode (seenBehind [] before) d = some e ∧ e.message = text :=
  deviceFault_iff fun id => by simp [seenBehind]

theorem no_deviceFault :
    (∀ text, ¬ DeviceFault mode before d text) ↔ fault? mode (seenBehind [] before) d = none := by
  simp only [deviceFault_behind]
  cases fault? mode (seenBehind [] before) d <;> simp

theorem batch_of_size (wrong : devices = [] ∨ 100 < devices.length) :
    batch mode devices = .error (.batchSize devices.length) :=
  if_pos (by simpa [maxBulkDevices] using wrong)

theorem batch_of_few (right : ¬ (devices = [] ∨ 100 < devices.length)) :
    batch mode devices = batchFrom mode [] devices :=
  if_neg (by simpa [maxBulkDevices] using right)

/-- What is said of a batch is the message of the error with which it is refused. -/
theorem batchFault_iff {text : String} :
    BatchFault mode devices text ↔ ∃ e, batch mode devices = .error e ∧ e.message = text := by
  by_cases size : devices = [] ∨ 100 < devices.length
  · rw [batch_of_size size]
    constructor
    · intro fault
      cases fault with
      | size => exact ⟨_, rfl, rfl⟩
      | device place few first fault =>
        rcases size with rfl | many
        · simp at place
        · exact absurd few (Nat.not_le_of_lt many)
    · rintro ⟨e, refused, rfl⟩
      cases refused
      exact .size size
  · rw [batch_of_few size]
    simp only [batchFrom_eq_error]
    constructor
    · intro fault
      cases fault with
      | size wrong => exact absurd wrong size
      | @device before after d _ place few first fault =>
        obtain ⟨e, found, rfl⟩ := deviceFault_behind.mp fault
        exact ⟨e, ⟨before, d, after, place, fun front other back inside =>
          no_deviceFault.mp (first front other back inside), found⟩, rfl⟩
    · rintro ⟨e, ⟨before, d, after, place, first, found⟩, rfl⟩
      rw [not_or, Nat.not_lt] at size
      exact .device place size.2 (fun front other back inside => no_deviceFault.mpr (first front other back inside))
        (deviceFault_behind.mpr ⟨e, found, rfl⟩)

/-- A batch is checked exactly. -/
structure Checked (mode : ImportMode) (devices : List Device) (result : Except RegistryError (List BulkEntry)) :
    Prop where
  accepted : ∀ entries, result = .ok entries ↔
    IsBatch mode devices ∧ List.Forall₂ (IsEntryOf mode) devices entries
  kind : ∀ e, result = .error e → e.kind = .argumentInvalid
  described : ∀ text, (∃ e, result = .error e ∧ e.message = text) ↔ BatchFault mode devices text

theorem checked_batch (mode : ImportMode) (devices : List Device) : Checked mode devices (batch mode devices) := by
  have guards := guards_batch mode devices
  have entriesOf {entries : List BulkEntry} : List.Forall₂ (IsEntryOf mode) devices entries ↔
      devices.map (.ofDevice mode) = entries := by
    have related : IsEntryOf mode = fun d entry => BulkEntry.ofDevice mode d = entry := by
      funext d entry
      exact propext isEntryOf_iff
    rw [related, ← List.forall₂_map_left_iff, List.forall₂_eq_eq_eq]
  refine ⟨fun entries => ?_, fun e refused => ?_, fun _ => batchFault_iff.symm⟩
  · rw [entriesOf]
    by_cases valid : IsBatch mode devices
    · simp [guards.of_holds valid, valid]
    · obtain ⟨e, refused, -⟩ := guards.of_not valid
      simp [refused, valid]
  · by_cases valid : IsBatch mode devices
    · rw [guards.of_holds valid] at refused
      cases refused
    · obtain ⟨e', refused', kind, -⟩ := guards.of_not valid
      rw [refused] at refused'
      cases refused'
      exact kind

end DeviceTwin.Registry
