import DeviceTwin.Proofs.Assoc
import DeviceTwin.Property.Patch

/-!
Merging patches. A merge decides key by key: a component that meets a component takes its properties over, any other
value replaces what is there (`mergedValue`). So a merge is known from its keys and from what it holds under each of
them (`keys_merge`, `get?_merge`), and merging is associative unless a value that is no component stands between two
components of one name (`Patch.merge_laws`); there it is not (`get?_merge_between`).
-/
namespace DeviceTwin

/-! ### Components -/

theorem isComponent_obj (fields : Fields) : isComponent (.obj fields) = isMarked fields := rfl

theorem exists_fields_of_isComponent {j : Json} (component : isComponent j = true) :
    ∃ fields, j = .obj fields ∧ isMarked fields = true := by
  cases j with
  | obj fields => exact ⟨fields, rfl, component⟩
  | _ => cases component

theorem isMarked_iff {fields : Fields} :
    isMarked fields = true ↔ Assoc.find? markerKey fields = some (.str markerValue) := by
  constructor
  · intro marked
    unfold isMarked at marked
    split at marked
    · rename_i text found
      rw [found, of_decide_eq_true marked]
    · cases marked
  · intro found
    simp [isMarked, found]

/-- What a component takes over leaves it a component. -/
theorem isMarked_extend (fields : Fields) {more : Fields} (distinct : (Assoc.keys more).Nodup) (marked : isMarked more = true) :
    isMarked (Assoc.extend fields more) = true := by
  rw [isMarked_iff] at marked ⊢
  rw [Assoc.find?_extend distinct, marked, Option.some_or]

/-! ### Values -/

/-- What a key holds after a value is merged into it. -/
def mergedValue : Option Json → Json → Json
  | some (.obj current), .obj incoming =>
    if isMarked current && isMarked incoming then .obj (Assoc.extend current incoming) else .obj incoming
  | _, incoming => incoming

/-- No key holds an object that has one name twice. -/
def Patch.WellFormed (p : Patch) : Prop :=
  ∀ key fields, p.component? key = some fields → (Assoc.keys fields).Nodup

section Values
variable {current : Option Json} {incoming : Json} {fields more : Fields}

theorem mergedValue_components (marked : isMarked fields = true) (marked' : isMarked more = true) :
    mergedValue (some (.obj fields)) (.obj more) = .obj (Assoc.extend fields more) := by
  simp [mergedValue, marked, marked']

/-- A value that is no component replaces what is there. -/
theorem mergedValue_plain (plain : isComponent incoming = false) : mergedValue current incoming = incoming := by
  unfold mergedValue
  split
  · rw [isComponent_obj] at plain
    simp [plain]
  · rfl

/-- What is no component is replaced. -/
theorem mergedValue_over (plain : ∀ j ∈ current, isComponent j = false) :
    mergedValue current incoming = incoming := by
  unfold mergedValue
  split
  · rename_i fields _
    have unmarked : isMarked fields = false := plain (.obj fields) rfl
    simp [unmarked]
  · rfl

/-- Three values under one key, of which the second is there, are merged alike from the left and from the right, unless
    the second alone is no component. -/
theorem mergedValue_assoc {second third : Json}
    (distinct : ∀ fields, current = some (.obj fields) → (Assoc.keys fields).Nodup)
    (distinct' : ∀ fields, second = .obj fields → (Assoc.keys fields).Nodup)
    (distinct'' : ∀ fields, third = .obj fields → (Assoc.keys fields).Nodup)
    (between : ∀ j ∈ current, isComponent j = true → isComponent third = true → isComponent second = true) :
    mergedValue (some (mergedValue current second)) third = mergedValue current (mergedValue (some second) third) := by
  by_cases last : isComponent third = true
  · obtain ⟨fields'', rfl, marked''⟩ := exists_fields_of_isComponent last
    by_cases middle : isComponent second = true
    · obtain ⟨fields', rfl, marked'⟩ := exists_fields_of_isComponent middle
      have all := isMarked_extend fields' (distinct'' _ rfl) marked''
      by_cases first : ∃ j ∈ current, isComponent j = true
      · obtain ⟨j, rfl, component⟩ := first
        obtain ⟨fields, rfl, marked⟩ := exists_fields_of_isComponent component
        have both := isMarked_extend fields (distinct' _ rfl) marked'
        rw [mergedValue_components marked marked', mergedValue_components both marked'',
          mergedValue_components marked' marked'', mergedValue_components marked all,
          Assoc.extend_assoc (distinct _ rfl) (distinct' _ rfl) (distinct'' _ rfl)]
      · have plain : ∀ j ∈ current, isComponent j = false := by simpa using first
        rw [mergedValue_over plain, mergedValue_over plain]
    · have plain : ∀ j ∈ current, isComponent j = false := by
        intro j here
        apply Bool.eq_false_iff.mpr
        intro component
        exact middle (between j here component last)
      rw [mergedValue_over plain, mergedValue_over plain]
  · have plain : isComponent third = false := by simpa using last
    rw [mergedValue_plain plain, mergedValue_plain plain, mergedValue_plain plain]

end Values

/-! ### Patches -/

namespace Patch
variable {p q : Patch} {key : String}

theorem mergeEntry_eq (p : Patch) (key : String) (value : Json) :
    p.mergeEntry key value = p.insert key (mergedValue (p.get? key) value) := by
  cases found : p.get? key with
  | none => simp [mergeEntry, mergedValue, found]
  | some current =>
    cases current with
    | obj fields =>
      cases value with
      | obj more =>
        by_cases both : (isMarked fields && isMarked more) = true
        · simp [mergeEntry, mergedValue, found, both]
        · simp [mergeEntry, mergedValue, found, both]
      | _ => simp [mergeEntry, mergedValue, found]
    | _ => simp [mergeEntry, mergedValue, found]

theorem entries_merge (p q : Patch) : (p.merge q).entries = Assoc.mergeWith mergedValue p.entries q.entries := by
  unfold merge
  generalize q.entries = entries
  induction entries generalizing p with
  | nil => rfl
  | cons entry entries ih =>
    rw [List.foldl_cons, ih, mergeEntry_eq]
    rfl

/-- A merge leaves the keys of a patch in their places and puts the new ones at the end. -/
theorem keys_merge (p q : Patch) :
    (p.merge q).entries.keys = p.entries.keys ++ q.entries.keys.filter (· ∉ p.entries.keys) := by
  rw [entries_merge, Assoc.keys_mergeWith q.distinct]

theorem get?_merge (p q : Patch) (key : String) :
    (p.merge q).get? key = Assoc.joined mergedValue (p.get? key) (q.get? key) := by
  rw [OrderedMap.get?, entries_merge, Assoc.find?_mergeWith q.distinct]
  rfl

theorem component?_eq_some {fields : Fields} : p.component? key = some fields ↔ p.get? key = some (.obj fields) := by
  rw [component?]
  cases p.get? key with
  | none => simp
  | some j => cases j <;> simp [Json.fields?]

theorem mem_entries_iff {j : Json} : (key, j) ∈ p.entries ↔ p.get? key = some j := by
  constructor
  · intro member
    exact Assoc.find?_of_mem p.distinct member
  · intro found
    exact Assoc.mem_of_find? found

theorem mem_components_iff : key ∈ p.components ↔ ∃ j, p.get? key = some j ∧ isComponent j = true := by
  simp only [components, List.mem_map, List.mem_filter]
  constructor
  · rintro ⟨⟨_, j⟩, ⟨member, component⟩, rfl⟩
    exact ⟨j, mem_entries_iff.mp member, component⟩
  · rintro ⟨j, found, component⟩
    exact ⟨(key, j), ⟨mem_entries_iff.mpr found, component⟩, rfl⟩

/-- Whatever stands between two components of one name: from the left it separates them, from the right it is gone
    before the first one is reached. -/
theorem get?_merge_between {a b c : Patch} {first last : Fields} {value : Json}
    (here : a.get? key = some (.obj first)) (marked : isMarked first = true) (between : b.get? key = some value)
    (plain : isComponent value = false) (there : c.get? key = some (.obj last)) (marked' : isMarked last = true) :
    ((a.merge b).merge c).get? key = some (.obj last) ∧
      (a.merge (b.merge c)).get? key = some (.obj (Assoc.extend first last)) := by
  have replaced : mergedValue (some value) (.obj last) = .obj last := mergedValue_over (by simpa using plain)
  constructor
  · simp [get?_merge, here, between, there, Assoc.joined, mergedValue_plain plain, replaced]
  · simp [get?_merge, here, between, there, Assoc.joined, replaced, mergedValue_components marked marked']

/-- Merging is associative, order included, unless a key is a component in the first and the last patch and something
    else in the second one. The empty patch changes nothing, and neither does a patch that is merged into itself. -/
theorem merge_laws (a : Patch) (wellFormed : a.WellFormed) :
    (∀ b c : Patch, b.WellFormed → c.WellFormed →
      (∀ key first second last, a.get? key = some first → b.get? key = some second → c.get? key = some last →
        isComponent first = true → isComponent last = true → isComponent second = true) →
      (a.merge b).merge c = a.merge (b.merge c)) ∧
    empty.merge a = a ∧ a.merge empty = a ∧ a.merge a = a := by
  refine ⟨?_, ?_, rfl, ?_⟩
  · intro b c wellFormed' wellFormed'' unmixed
    apply OrderedMap.eq_of_entries
    simp only [entries_merge]
    apply Assoc.mergeWith_assoc a.distinct b.distinct c.distinct
    intro key
    change Assoc.joined mergedValue (Assoc.joined mergedValue (a.get? key) (b.get? key)) (c.get? key) =
      Assoc.joined mergedValue (a.get? key) (Assoc.joined mergedValue (b.get? key) (c.get? key))
    cases last : c.get? key with
    | none => rfl
    | some third =>
      cases middle : b.get? key with
      | none => simp [Assoc.joined, mergedValue_over]
      | some second =>
        refine congrArg some (mergedValue_assoc ?_ ?_ ?_ ?_)
        · intro fields same
          exact wellFormed key fields (component?_eq_some.mpr same)
        · rintro fields rfl
          exact wellFormed' key fields (component?_eq_some.mpr middle)
        · rintro fields rfl
          exact wellFormed'' key fields (component?_eq_some.mpr last)
        · intro first here
          exact unmixed key first second third here middle last
  · apply OrderedMap.eq_of_entries
    rw [entries_merge]
    apply Assoc.eq_of_find?
    · exact Assoc.nodup_keys_mergeWith _ _ empty.distinct
    · rw [Assoc.keys_mergeWith a.distinct]
      simp [empty, OrderedMap.empty, Assoc.keys]
    · intro key
      rw [Assoc.find?_mergeWith a.distinct]
      cases found : a.entries.find? key with
      | none => rfl
      | some value =>
        apply congrArg some
        apply mergedValue_over
        intro j none
        cases none
  · apply OrderedMap.eq_of_entries
    rw [entries_merge]
    apply Assoc.mergeWith_eq_self a.distinct a.distinct fun _ => id
    intro key
    cases found : a.entries.find? key with
    | none => rfl
    | some value =>
      refine congrArg some ?_
      by_cases component : isComponent value = true
      · obtain ⟨fields, rfl, marked⟩ := exists_fields_of_isComponent component
        rw [mergedValue_components marked marked,
          Assoc.extend_self (wellFormed key fields (component?_eq_some.mpr found))]
      · exact mergedValue_plain (by simpa using component)

/-- What a heating reports of itself, next to a property of the root interface. -/
def heating : Patch :=
  ⟨[("heating", .obj [(markerKey, .str markerValue), ("target", .int 20)]), ("mode", .str "eco")], by decide⟩

/-- Later, its mode is no longer a text, and it has a new property. -/
def heatingLater : Patch :=
  ⟨[("mode", .obj [("name", .str "eco")]), ("heating", .obj [("valve", .bool true), (markerKey, .str markerValue)])],
    by decide⟩

theorem wellFormed_of_entries {p : Patch}
    (distinct : ∀ f ∈ p.entries, (f.2.fields?.all fun fields => decide (Assoc.keys fields).Nodup) = true) :
    p.WellFormed := by
  intro key fields there
  have group := distinct _ (mem_entries_iff.mpr (component?_eq_some.mp there))
  simpa [Json.fields?] using group

theorem merge_laws_heating :
    heating.WellFormed ∧ heatingLater.WellFormed ∧
      (heating.merge heatingLater).merge heating = heating.merge (heatingLater.merge heating) ∧
      empty.merge heating = heating ∧ heating.merge empty = heating ∧ heating.merge heating = heating := by
  have wellFormed : heating.WellFormed := wellFormed_of_entries (by decide)
  have wellFormed' : heatingLater.WellFormed := wellFormed_of_entries (by decide)
  obtain ⟨associative, left, right, same⟩ := merge_laws heating wellFormed
  refine ⟨wellFormed, wellFormed', associative _ _ wellFormed' wellFormed ?_, left, right, same⟩
  intro key first second last here between _ component _
  -- Only the heating is a component, and it is one in both patches.
  obtain rfl : key = "heating" := by
    have listed := mem_components_iff.mpr ⟨first, here, component⟩
    simpa [heating, components, isComponent, isMarked, Assoc.find?] using listed
  cases between
  rfl

end Patch
end DeviceTwin
