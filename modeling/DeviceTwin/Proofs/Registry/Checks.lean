import DeviceTwin.Registry.Client

/-!
What is checked before anything is sent: identifiers, tags and batches. Each check is the guard of a condition
(`Guards`), and what is checked one after the other is guarded by all the conditions together.
-/
namespace DeviceTwin.Registry

/-- Refused because of its arguments, which will not change. -/
def Refused {α : Type} (r : Except RegistryError α) : Prop :=
  ∃ e, r = .error e ∧ e.kind = .argumentInvalid ∧ e.isTransient = false

/-- A result that is `then_` if `P` holds, and refused otherwise. -/
structure Guards {α : Type} (P : Prop) (r then_ : Except RegistryError α) : Prop where
  of_holds : P → r = then_
  of_not : ¬ P → Refused r

section Guards
variable {α β : Type} {P Q : Prop} {r : Except RegistryError α} {a : α} {f : α → Except RegistryError β}
  {result : Except RegistryError β}

theorem Refused.bind (refused : Refused r) : Refused (r >>= f) := by
  obtain ⟨e, rfl, rest⟩ := refused
  exact ⟨e, rfl, rest⟩

/-- A check in front of a guarded result. -/
theorem Guards.bind (first : Guards P r (.ok a)) (second : Guards Q (f a) result) : Guards (P ∧ Q) (r >>= f) result where
  of_holds both := by
    rw [first.of_holds both.1]
    exact second.of_holds both.2
  of_not violated := by
    by_cases holds : P
    · rw [first.of_holds holds]
      exact second.of_not fun other => violated ⟨holds, other⟩
    · exact (first.of_not holds).bind

/-- The last check. -/
theorem Guards.last (first : Guards P r (.ok a)) (result_ : f a = result) : Guards P (r >>= f) result where
  of_holds holds := by
    rw [first.of_holds holds]
    exact result_
  of_not violated := (first.of_not violated).bind

theorem Guards.of_iff {r' : Except RegistryError α} (guards : Guards P r r') (same : P ↔ Q) : Guards Q r r' :=
  ⟨fun holds => guards.of_holds (same.mpr holds), fun violated => guards.of_not fun holds => violated (same.mp holds)⟩

/-- A check that throws an error in front of a guarded result. -/
theorem Guards.unless [Decidable P] {e : RegistryError} (refused : Refused (.error e : Except RegistryError β))
    (second : Guards Q (f a) result) : Guards (¬ P ∧ Q) (if P then throw e >>= f else f a) result where
  of_holds both := by
    rw [if_neg both.1]
    exact second.of_holds both.2
  of_not violated := by
    by_cases thrown : P
    · rw [if_pos thrown]
      exact refused
    · rw [if_neg thrown]
      exact second.of_not fun other => violated ⟨thrown, other⟩

end Guards

/-! ### Identifiers and tags -/

/-- More than blanks. -/
def IsIdentifier (id : String) : Prop :=
  Text.isBlankText id = false

/-- The value of the condition under which an entity is replaced or deleted. -/
def matchedTag (etag : Option String) (force : Bool) : String :=
  if force then wildcardTag else String.ofList (quotedTag (Text.trimChars (etag.getD "").toList))

theorem guards_checkId (subject : Subject) (id : String) : Guards (IsIdentifier id) (checkId subject id) (.ok ()) where
  of_holds identifier := if_neg (by simpa [IsIdentifier] using identifier)
  of_not blank := ⟨.emptyIdentifier subject, if_pos (by simpa [IsIdentifier] using blank), rfl, rfl⟩

theorem guards_checkNew (subject : Subject) (etag : Option String) :
    Guards (etag = none) (checkNew subject etag) (.ok ()) where
  of_holds untagged := if_neg (by simp [untagged])
  of_not tagged := ⟨.tagOnCreation subject, if_pos (by simpa [Option.isSome_iff_ne_none] using tagged), rfl, rfl⟩

theorem guards_matchTag (subject : Subject) (etag : Option String) (force : Bool) :
    Guards (force = true ∨ hasTag etag = true) (matchTag subject etag force) (.ok (matchedTag etag force)) := by
  cases force with
  | true => exact ⟨fun _ => rfl, fun violated => absurd (.inl rfl) violated⟩
  | false =>
    cases etag with
    | none => exact ⟨fun tagged => by simp [hasTag] at tagged, fun _ => ⟨.withoutTag subject, rfl, rfl, rfl⟩⟩
    | some tag =>
      by_cases blank : Text.trimChars tag.toList = []
      · refine ⟨fun tagged => by simp [hasTag, Text.isBlankText, blank] at tagged, fun _ => ?_⟩
        exact ⟨.withoutTag subject, by simp [matchTag, Text.nonBlank?, blank], rfl, rfl⟩
      · refine ⟨fun _ => ?_, fun violated => absurd (.inr (by simp [hasTag, Text.isBlankText, blank])) violated⟩
        simp [matchTag, matchedTag, Text.nonBlank?, blank]

/-! ### Batches -/

/-- Devices that can be sent in one request. -/
structure IsBatch (mode : ImportMode) (devices : List Device) : Prop where
  some_ : devices ≠ []
  few : devices.length ≤ maxBulkDevices
  named : ∀ d ∈ devices, IsIdentifier d.id
  distinct : (devices.map (·.id)).Nodup
  tagged : mode.needsTag = true → ∀ d ∈ devices, hasTag d.etag = true

/-- What `batchFrom` checks of the devices behind those of the identifiers `seen`. -/
def Follows (mode : ImportMode) : List String → List Device → Prop
  | _, [] => True
  | seen, d :: rest =>
    IsIdentifier d.id ∧ d.id ∉ seen ∧ (mode.needsTag = true → hasTag d.etag = true) ∧ Follows mode (d.id :: seen) rest

theorem follows_iff {mode : ImportMode} {devices : List Device} (seen : List String) :
    Follows mode seen devices ↔
      (∀ d ∈ devices, IsIdentifier d.id) ∧ (devices.map (·.id)).Nodup ∧ (∀ d ∈ devices, d.id ∉ seen) ∧
        (mode.needsTag = true → ∀ d ∈ devices, hasTag d.etag = true) := by
  induction devices generalizing seen with
  | nil => simp [Follows]
  | cons d rest ih =>
    simp only [Follows, ih, List.map_cons, List.nodup_cons, List.mem_cons, not_or, List.mem_map,
      not_exists, not_and]
    grind

theorem guards_batchFrom (mode : ImportMode) (seen : List String) (devices : List Device) :
    Guards (Follows mode seen devices) (batchFrom mode seen devices) (.ok (devices.map (.ofDevice mode))) := by
  induction devices generalizing seen with
  | nil => exact ⟨fun _ => rfl, fun violated => absurd trivial violated⟩
  | cons d rest ih =>
    refine (guards_checkId .device d.id).bind (Guards.of_iff (P := ¬ seen.contains d.id = true ∧
      ¬ (mode.needsTag && !hasTag d.etag) = true ∧ Follows mode (d.id :: seen) rest) ?_ (by simp))
    exact Guards.unless (a := ()) ⟨.repeatedDevice d.id, rfl, rfl, rfl⟩ <|
      Guards.unless (a := ()) ⟨.deviceWithoutTag d.id, rfl, rfl, rfl⟩ <| (ih (d.id :: seen)).last rfl

theorem guards_batch (mode : ImportMode) (devices : List Device) :
    Guards (IsBatch mode devices) (batch mode devices) (.ok (devices.map (.ofDevice mode))) := by
  have guards := guards_batchFrom mode [] devices
  rw [follows_iff] at guards
  by_cases size : devices.isEmpty || devices.length > maxBulkDevices
  · refine ⟨fun holds => ?_, fun _ => ⟨.batchSize devices.length, if_pos size, rfl, rfl⟩⟩
    rw [Bool.or_eq_true, List.isEmpty_iff, decide_eq_true_eq] at size
    exact (size.elim holds.some_ (Nat.not_lt_of_le holds.few)).elim
  · rw [batch, if_neg size]
    refine guards.of_iff ⟨fun holds => ?_, fun holds => ?_⟩
    · obtain ⟨named, distinct, -, tagged⟩ := holds
      simp only [Bool.or_eq_true, List.isEmpty_iff, decide_eq_true_eq, not_or, Nat.not_lt] at size
      exact ⟨size.1, size.2, named, distinct, tagged⟩
    · exact ⟨holds.named, holds.distinct, by simp, holds.tagged⟩

end DeviceTwin.Registry
