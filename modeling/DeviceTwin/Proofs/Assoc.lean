import DeviceTwin.Assoc

/-!
Entries under keys: what an operation leaves of the entries that were there, and that new keys go to the end. Two lists
of entries are merged key by key (`mergeWith`), which is associative where it is so under every key
(`mergeWith_assoc`).
-/
namespace DeviceTwin

/-- A list with one more element is taken apart either at this element or at one before it. -/
theorem concat_eq_append_cons {α : Type} {l before after : List α} {a b : α} :
    l ++ [a] = before ++ b :: after ↔
      after = [] ∧ l = before ∧ a = b ∨ ∃ inner, after = inner ++ [a] ∧ l = before ++ b :: inner := by
  constructor
  · intro split
    rcases List.eq_nil_or_concat after with rfl | ⟨inner, d, rfl⟩
    · obtain ⟨same, here⟩ := List.append_inj' split rfl
      exact .inl ⟨rfl, same, List.singleton_inj.mp here⟩
    · rw [List.concat_eq_append, ← List.cons_append, ← List.append_assoc] at split
      obtain ⟨same, here⟩ := List.append_inj' split rfl
      exact .inr ⟨inner, by rw [List.concat_eq_append, List.singleton_inj.mp here], same⟩
  · rintro (⟨rfl, rfl, rfl⟩ | ⟨inner, rfl, rfl⟩)
    · rfl
    · rw [List.append_assoc, List.cons_append]

namespace Assoc
variable {α : Type} {key : String} {value : α} {entries more : Assoc α} {e : String × α}

theorem mem_insert (member : e ∈ insert key value entries) : e = (key, value) ∨ e ∈ entries := by
  induction entries with
  | nil => exact .inl (List.mem_singleton.mp member)
  | cons entry entries ih =>
    obtain ⟨k, v⟩ := entry
    rw [insert] at member
    split at member
    · rename_i same
      rcases List.mem_cons.mp member with rfl | later
      · exact .inl (by rw [same])
      · exact .inr (List.mem_cons_of_mem _ later)
    · rcases List.mem_cons.mp member with rfl | later
      · exact .inr List.mem_cons_self
      · exact (ih later).imp_right (List.mem_cons_of_mem _)

theorem mem_erase (member : e ∈ erase key entries) : e ∈ entries := by
  induction entries with
  | nil => cases member
  | cons entry entries ih =>
    obtain ⟨k, v⟩ := entry
    rw [erase] at member
    split at member
    · exact List.mem_cons_of_mem _ member
    · rcases List.mem_cons.mp member with rfl | later
      · exact List.mem_cons_self
      · exact List.mem_cons_of_mem _ (ih later)

theorem mem_of_find? (found : find? key entries = some value) : (key, value) ∈ entries := by
  induction entries with
  | nil => cases found
  | cons entry entries ih =>
    obtain ⟨k, v⟩ := entry
    rw [find?] at found
    split at found
    · rename_i same
      cases found
      rw [← same]
      exact List.mem_cons_self
    · exact List.mem_cons_of_mem _ (ih found)

theorem find?_eq_none (absent : key ∉ keys entries) : find? key entries = none := by
  cases found : find? key entries with
  | none => rfl
  | some value => exact absurd (List.mem_map_of_mem (mem_of_find? found)) absent

@[simp] theorem find?_append (key : String) (entries more : Assoc α) :
    find? key (entries ++ more) = (find? key entries).or (find? key more) := by
  induction entries with
  | nil => rfl
  | cons entry entries ih =>
    obtain ⟨k, v⟩ := entry
    by_cases same : k = key
    · simp [find?, same]
    · simpa [find?, same] using ih

theorem find?_of_mem (distinct : (keys entries).Nodup) (member : (key, value) ∈ entries) :
    find? key entries = some value := by
  induction entries with
  | nil => cases member
  | cons entry entries ih =>
    obtain ⟨k, v⟩ := entry
    simp only [keys, List.map_cons, List.nodup_cons] at distinct
    rw [find?]
    rcases List.mem_cons.mp member with here | later
    · cases here
      exact if_pos rfl
    · have other : k ≠ key := fun same => distinct.1 (same ▸ List.mem_map_of_mem later)
      rw [if_neg other, ih distinct.2 later]

/-- Where every key is there once, the order of the entries does not count. -/
theorem find?_perm (same : entries.Perm more) (distinct : (keys more).Nodup) (key : String) :
    find? key entries = find? key more := by
  have distinct' : (keys entries).Nodup := (same.map _).nodup_iff.mpr distinct
  cases found : find? key more with
  | some value => exact find?_of_mem distinct' (same.mem_iff.mpr (mem_of_find? found))
  | none =>
    cases found' : find? key entries with
    | none => rfl
    | some value =>
      rw [find?_of_mem distinct (same.mem_iff.mp (mem_of_find? found'))] at found
      cases found

theorem insert_new (new : key ∉ keys entries) (value : α) : insert key value entries = entries ++ [(key, value)] := by
  induction entries with
  | nil => rfl
  | cons entry entries ih =>
    obtain ⟨k, v⟩ := entry
    simp only [keys, List.map_cons, List.mem_cons, not_or] at new
    rw [insert, if_neg (Ne.symm new.1), ih new.2]
    rfl

/-- Keys that are new stay so when another one is put at the end. -/
theorem new_concat (other : key ∉ keys more) (new : ∀ k ∈ keys more, k ∉ keys entries) (value : α) :
    ∀ k ∈ keys more, k ∉ keys (entries ++ [(key, value)]) := by
  intro k member inside
  rw [keys, List.map_append, List.mem_append] at inside
  rcases inside with before | last
  · exact new k member before
  · rw [List.mem_singleton.mp last] at member
    exact other member

/-- Entries with new and distinct keys are put at the end. -/
theorem extend_new (new : ∀ k ∈ keys more, k ∉ keys entries) (distinct : (keys more).Nodup) :
    extend entries more = entries ++ more := by
  induction more generalizing entries with
  | nil => exact (List.append_nil entries).symm
  | cons entry more ih =>
    obtain ⟨k, v⟩ := entry
    simp only [keys, List.map_cons, List.forall_mem_cons, List.nodup_cons] at new distinct
    have step : extend entries ((k, v) :: more) = extend (entries ++ [(k, v)]) more := by
      rw [← insert_new new.1 v]
      rfl
    rw [step, ih (new_concat distinct.1 new.2 v) distinct.2, List.append_assoc]
    rfl

theorem isSome_find? (key : String) (entries : Assoc α) : (find? key entries).isSome ↔ key ∈ keys entries := by
  induction entries with
  | nil => simp [find?, keys]
  | cons entry entries ih =>
    obtain ⟨k, v⟩ := entry
    by_cases same : k = key
    · simp [find?, keys, same]
    · have other : key ≠ k := fun equal => same equal.symm
      simpa [find?, keys, same, other] using ih

theorem find?_insert (key k : String) (value : α) (entries : Assoc α) :
    find? k (insert key value entries) = if key = k then some value else find? k entries := by
  induction entries with
  | nil => simp [insert, find?]
  | cons entry entries ih =>
    obtain ⟨k', v⟩ := entry
    by_cases here : k' = key
    · subst here
      by_cases same : k' = k
      · simp [insert, find?, same]
      · simp [insert, find?, same]
    · rw [insert, if_neg here]
      by_cases same : k' = k
      · have other : key ≠ k := fun equal => here (same.trans equal.symm)
        simp [find?, same, other]
      · simp [find?, same, ih]

/-- The entries under the other keys stay as they are, in their order. -/
theorem filter_insert (key : String) (value : α) (entries : Assoc α) :
    (insert key value entries).filter (·.1 ≠ key) = entries.filter (·.1 ≠ key) := by
  induction entries with
  | nil => simp [insert]
  | cons entry entries ih =>
    obtain ⟨k, v⟩ := entry
    by_cases here : k = key
    · simp [insert, here]
    · rw [insert, if_neg here, List.filter_cons, List.filter_cons, ih]

/-- Where every key is there once, what is left without a key are the entries under the other ones. -/
theorem erase_eq_filter (distinct : (keys entries).Nodup) : erase key entries = entries.filter (·.1 ≠ key) := by
  induction entries with
  | nil => rfl
  | cons entry entries ih =>
    obtain ⟨k, v⟩ := entry
    simp only [keys, List.map_cons, List.nodup_cons] at distinct
    rw [erase]
    by_cases here : k = key
    · subst here
      have others : entries.filter (·.1 ≠ k) = entries := by
        rw [List.filter_eq_self]
        intro e member
        exact decide_eq_true fun same => distinct.1 (same ▸ List.mem_map_of_mem member)
      rw [if_pos rfl, List.filter_cons_of_neg (by simp), others]
    · rw [if_neg here, List.filter_cons_of_pos (by simpa using here), ih distinct.2]

/-- Entries with the same distinct keys and the same values under them are the same. -/
theorem eq_of_find? (distinct : (keys entries).Nodup) (order : keys entries = keys more)
    (values : ∀ key, find? key entries = find? key more) : entries = more := by
  induction entries generalizing more with
  | nil =>
    cases more with
    | nil => rfl
    | cons entry more => cases order
  | cons entry entries ih =>
    cases more with
    | nil => cases order
    | cons entry' more =>
      obtain ⟨k, v⟩ := entry
      obtain ⟨k', v'⟩ := entry'
      simp only [keys, List.map_cons, List.cons.injEq, List.nodup_cons] at order distinct
      obtain ⟨rfl, order⟩ := order
      have here := values k
      simp only [find?, if_true, Option.some.injEq] at here
      subst here
      rw [ih distinct.2 order]
      intro key
      by_cases same : k = key
      · subst same
        have absent' := distinct.1
        rw [order] at absent'
        rw [find?_eq_none distinct.1, find?_eq_none absent']
      · have later := values key
        rwa [find?, find?, if_neg same, if_neg same] at later

/-! ### Merging -/

section Merging
variable {a b c : Assoc α} {combine : Option α → α → α}

/-- Sets all keys of `more`, one after the other, each to what is made of its value and of the one that is there. -/
def mergeWith (combine : Option α → α → α) (entries more : Assoc α) : Assoc α :=
  more.foldl (fun acc e => insert e.1 (combine (find? e.1 acc) e.2) acc) entries

/-- What a key holds after a merge, if it holds `current` before and `incoming` on the other side. -/
def joined (combine : Option α → α → α) (current incoming : Option α) : Option α :=
  match incoming with
  | some value => some (combine current value)
  | none => current

theorem mergeWith_cons (combine : Option α → α → α) (a b : Assoc α) (e : String × α) :
    mergeWith combine a (e :: b) = mergeWith combine (insert e.1 (combine (find? e.1 a) e.2) a) b := rfl

/-- New keys go to the end, in their order. -/
theorem keys_mergeWith (distinct : (keys b).Nodup) :
    keys (mergeWith combine a b) = keys a ++ (keys b).filter (· ∉ keys a) := by
  induction b generalizing a with
  | nil => exact (List.append_nil _).symm
  | cons e b ih =>
    simp only [keys, List.map_cons, List.nodup_cons] at distinct
    rw [mergeWith_cons, ih distinct.2, keys_insert]
    by_cases there : e.1 ∈ keys a
    · rw [if_pos there]
      simp only [keys] at there
      simp [keys, there]
    · have others : (keys b).filter (· ∉ keys a ++ [e.1]) = (keys b).filter (· ∉ keys a) := by
        apply List.filter_congr
        intro k member
        have other : k ≠ e.1 := fun same => distinct.1 (same ▸ member)
        simp [other]
      rw [if_neg there, others]
      simp only [keys] at there
      simp [keys, there]

theorem nodup_keys_mergeWith (combine : Option α → α → α) (b : Assoc α) (distinct : (keys a).Nodup) :
    (keys (mergeWith combine a b)).Nodup := by
  induction b generalizing a with
  | nil => exact distinct
  | cons e b ih => exact ih (nodup_keys_insert _ _ distinct)

theorem find?_mergeWith (distinct : (keys b).Nodup) (key : String) :
    find? key (mergeWith combine a b) = joined combine (find? key a) (find? key b) := by
  induction b generalizing a with
  | nil => rfl
  | cons e b ih =>
    obtain ⟨k, v⟩ := e
    simp only [keys, List.map_cons, List.nodup_cons] at distinct
    rw [mergeWith_cons, ih distinct.2, find?_insert]
    by_cases same : k = key
    · subst same
      simp [find?, find?_eq_none distinct.1, joined]
    · simp [find?, same]

/-- Merging is associative where it is so under every key. -/
theorem mergeWith_assoc (distinctA : (keys a).Nodup) (distinctB : (keys b).Nodup) (distinctC : (keys c).Nodup)
    (pointwise : ∀ key, joined combine (joined combine (find? key a) (find? key b)) (find? key c) =
      joined combine (find? key a) (joined combine (find? key b) (find? key c))) :
    mergeWith combine (mergeWith combine a b) c = mergeWith combine a (mergeWith combine b c) := by
  have inner := nodup_keys_mergeWith combine c distinctB
  apply eq_of_find?
  · exact nodup_keys_mergeWith combine c (nodup_keys_mergeWith combine b distinctA)
  · rw [keys_mergeWith distinctC, keys_mergeWith distinctB, keys_mergeWith inner, keys_mergeWith distinctC,
      List.filter_append, List.append_assoc, List.filter_filter]
    congr 2
    apply List.filter_congr
    intro k _
    by_cases first : k ∈ keys a <;> simp [first]
  · intro key
    rw [find?_mergeWith distinctC, find?_mergeWith distinctB, find?_mergeWith inner, find?_mergeWith distinctC]
    exact pointwise key

/-- A merge that leaves every value of a side as it is gives this side, if there are no other keys. -/
theorem mergeWith_eq_self (distinct : (keys a).Nodup) (distinctB : (keys b).Nodup) (inside : ∀ key ∈ keys b, key ∈ keys a)
    (pointwise : ∀ key, joined combine (find? key a) (find? key b) = find? key a) : mergeWith combine a b = a := by
  apply eq_of_find?
  · exact nodup_keys_mergeWith combine b distinct
  · rw [keys_mergeWith distinctB, List.filter_eq_nil_iff.mpr (by simpa using inside), List.append_nil]
  · intro key
    rw [find?_mergeWith distinctB]
    exact pointwise key

theorem extend_eq (a b : Assoc α) : extend a b = mergeWith (fun _ value => value) a b := rfl

theorem find?_extend (distinct : (keys b).Nodup) (key : String) :
    find? key (extend a b) = (find? key b).or (find? key a) := by
  rw [extend_eq, find?_mergeWith distinct]
  cases find? key b <;> rfl

theorem extend_assoc (distinctA : (keys a).Nodup) (distinctB : (keys b).Nodup) (distinctC : (keys c).Nodup) :
    extend (extend a b) c = extend a (extend b c) := by
  simp only [extend_eq]
  apply mergeWith_assoc distinctA distinctB distinctC
  intro key
  cases find? key c <;> rfl

theorem extend_self (distinct : (keys a).Nodup) : extend a a = a := by
  rw [extend_eq]
  apply mergeWith_eq_self distinct distinct fun _ => id
  intro key
  cases find? key a <;> rfl

end Merging

end Assoc

namespace OrderedMap
variable {α : Type} {entries : Assoc α} {e : String × α}

theorem mem_foldl_insert (m : OrderedMap α)
    (member : e ∈ (entries.foldl (fun m e => m.insert e.1 e.2) m).entries) : e ∈ m.entries ∨ e ∈ entries := by
  induction entries generalizing m with
  | nil => exact .inl member
  | cons entry entries ih =>
    rcases ih (m.insert entry.1 entry.2) member with before | later
    · rcases Assoc.mem_insert before with rfl | before
      · exact .inr List.mem_cons_self
      · exact .inl before
    · exact .inr (List.mem_cons_of_mem _ later)

theorem eq_of_entries {m m' : OrderedMap α} (same : m.entries = m'.entries) : m = m' := by
  cases m
  cases m'
  cases same
  rfl

theorem entries_foldl_insert (m : OrderedMap α) :
    (entries.foldl (fun m e => m.insert e.1 e.2) m).entries = Assoc.extend m.entries entries := by
  induction entries generalizing m with
  | nil => rfl
  | cons entry entries ih => exact ih (m.insert entry.1 entry.2)

theorem entries_ofEntries (distinct : (Assoc.keys entries).Nodup) : (ofEntries entries).entries = entries := by
  rw [ofEntries, entries_foldl_insert, Assoc.extend_new (by simp [empty, Assoc.keys]) distinct]
  rfl

/-- The entries of a map make the map again. -/
theorem ofEntries_entries (m : OrderedMap α) : ofEntries m.entries = m :=
  eq_of_entries (entries_ofEntries m.distinct)

/-- Nothing but the given entries is in a map of them. -/
theorem mem_ofEntries (member : e ∈ (ofEntries entries).entries) : e ∈ entries := by
  rcases mem_foldl_insert .empty member with none | inside
  · cases none
  · exact inside

end OrderedMap
end DeviceTwin
