import DeviceTwin.Proofs.Json.Typed

/-!
Values that are read as they were written. A schema restores a value (`Restored`) if the value is read from its text,
whatever follows it and however deep it may be nested beyond its own depth. Options, arrays and maps restore what their
contents restore; a record restores its fields if only fields are left out that may be (`Filled`, `restored_record`).
-/
namespace DeviceTwin.Json
open DeviceTwin.Text

/-- What is written of a value is read by a schema as the value itself. -/
def Restored (depth : Nat) (schema : Schema) (j : Json) : Prop :=
  ∀ allowed, depth ≤ allowed → ∀ rest, Delimited rest → readValue allowed schema (j.write ++ rest) = .ok (j, rest)

variable {depth depth' : Nat} {schema : Schema} {j : Json} {key : String}

theorem Restored.mono (restored : Restored depth schema j) (deeper : depth ≤ depth') : Restored depth' schema j :=
  fun allowed deep => restored allowed (deeper.trans deep)

/-- A text that holds nothing but a value is read as the value. -/
theorem Restored.read (restored : Restored depthLimit schema j) : Json.read schema j.print = .ok j := by
  have reading := restored depthLimit (Nat.le_refl _) [] trivial
  rw [List.append_nil] at reading
  simp only [Json.read, print, String.toList_ofList, reading, bind, Except.bind, pure, Except.pure]
  rfl

/-! ### Single values -/

theorem Typed.restored (typed : Typed schema j) (document : IsDocument depth j) : Restored depth schema j := by
  intro allowed deep rest delimited
  exact readValue_typed (s := .verbose) typed (document.mono deep) delimited

theorem restored_document (document : IsDocument depth j) (exact_ : Exact j) : Restored depth .document j := by
  intro allowed deep rest delimited
  obtain ⟨j', reading, same⟩ := readValue_write (document.mono deep) rest delimited
  rwa [same exact_] at reading

theorem restored_variant {names : List String} {name : String} (known : name ∈ names) :
    Restored 0 (.variant names) (.str name) := by
  intro allowed _ rest _
  have text : (Json.str name).write ++ rest = '"' :: (name.toList.flatMap escapeChar ++ '"' :: rest) := by
    simp [write, writeText]
  have begins (cs : List Char) : readWith (innerOf allowed) (.variant names) ('"' :: cs) =
      readVariantName names ('"' :: cs) := rfl
  simp only [readValue_eq, text, begins, readVariantName, readText_write, String.ofList_toList, bind, Except.bind,
    pure, Except.pure]
  rw [if_pos (List.contains_iff_mem.mpr known)]

/-! ### Options, arrays and maps -/

theorem Restored.optional (restored : Restored depth schema j) (document : IsDocument depth j)
    (there : j.isNull = false) : Restored depth (.optional schema) j := by
  intro allowed deep rest delimited
  rw [readValue_eq, readWith_optional document there, ← readValue_eq]
  exact restored allowed deep rest delimited

theorem restored_sequence {items : List Json} (documents : ∀ j ∈ items, IsDocument depth j)
    (inside : ∀ j ∈ items, Restored depth schema j) : Restored (depth + 1) (.sequence schema) (.arr items) := by
  intro allowed deep rest _
  cases allowed with
  | zero => cases deep
  | succ allowed =>
    have deep : depth ≤ allowed := Nat.le_of_succ_le_succ deep
    have reading := readValue_sequence id (fun j member => (documents j member).mono deep)
      (fun j member rest delimited => inside j member allowed deep rest delimited) rest
    rwa [List.map_id] at reading

/-- An object with any keys is restored if they are distinct and the values are restored. -/
theorem restored_mapping {fields : Fields} (distinct : (Assoc.keys fields).Nodup) (exact_ : ∀ f ∈ fields, Exact f.2)
    (inside : ∀ f ∈ fields, Restored depth schema f.2) : Restored (depth + 1) (.mapping schema) (.obj fields) := by
  intro allowed deep rest _
  cases allowed with
  | zero => cases deep
  | succ allowed =>
    have deep : depth ≤ allowed := Nat.le_of_succ_le_succ deep
    have reads : ∀ f ∈ fields, ReadsBack (readValue allowed schema) f.2 := by
      intro f member rest delimited
      exact ⟨f.2, inside f member allowed deep rest delimited, fun _ => rfl⟩
    obtain ⟨fields', reading, same⟩ := readEntries_write reads (length_fieldsFrom_lt true fields rest) true [] rest
    rw [same exact_, Assoc.extend_new (by simp [Assoc.keys]) distinct, List.nil_append] at reading
    have text : (Json.obj fields).write ++ rest = '\x7b' :: (fieldsFrom true fields ++ '\x7d' :: rest) := by
      simp [write, fieldsFrom]
    have begins (cs : List Char) : readValue (allowed + 1) (.mapping schema) ('\x7b' :: cs) =
        readEntries (readValue allowed schema) (cs.length + 1) true [] cs >>= fun r => .ok (.obj r.1, r.2) := rfl
    rw [text, begins, reading]
    rfl

/-! ### Records -/

/-- Fields that are written in the order in which they are declared. Those that are left out are read as left out, and
    those that are written are read as written. -/
inductive Filled (depth : Nat) : List (Field Schema) → Fields → Prop where
  | empty : Filled depth [] []
  | written {f : Field Schema} {j : Json} {declared : List (Field Schema)} {fields : Fields}
      (restored : Restored depth f.schema j) (kept : f.absence ≠ .omitted ∨ j.isNull = false)
      (others : Filled depth declared fields) : Filled depth (f :: declared) ((f.key, j) :: fields)
  | omitted {f : Field Schema} {declared : List (Field Schema)} {fields : Fields} (absence : f.absence = .omitted)
      (others : Filled depth declared fields) : Filled depth (f :: declared) fields

namespace Filled
variable {declared declared' : List (Field Schema)} {fields fields' : Fields}

theorem append (first : Filled depth declared fields) (second : Filled depth declared' fields') :
    Filled depth (declared ++ declared') (fields ++ fields') := by
  induction first with
  | empty => exact second
  | written restored kept _ ih => exact .written restored kept ih
  | omitted absence _ ih => exact .omitted absence ih

/-- The fields that are written are some of the declared ones. -/
theorem present (filled : Filled depth declared fields) :
    ∃ written : List (Field Schema × Json), (written.map (·.1)).Sublist declared ∧
      (∀ f ∈ written, Restored depth f.1.schema f.2) ∧ fields = written.map fun f => (f.1.key, f.2) := by
  induction filled with
  | empty => exact ⟨[], .refl _, nofun, rfl⟩
  | @written f j _ _ restored _ _ ih =>
    obtain ⟨written, some_, reads, same⟩ := ih
    refine ⟨(f, j) :: written, some_.cons_cons f, ?_, by rw [same]; rfl⟩
    rw [List.forall_mem_cons]
    exact ⟨restored, reads⟩
  | omitted _ _ ih =>
    obtain ⟨written, some_, reads, same⟩ := ih
    exact ⟨written, some_.cons _, reads, same⟩

theorem keys_sublist (filled : Filled depth declared fields) : (Assoc.keys fields).Sublist (declared.map (·.key)) := by
  obtain ⟨written, some_, _, rfl⟩ := filled.present
  have keys := some_.map (·.key)
  rw [List.map_map] at keys
  rwa [Assoc.keys, List.map_map]

/-- A record is assembled from the fields that are written of it, wherever they are found. -/
theorem assemble (filled : Filled depth declared fields) (distinct : (declared.map (·.key)).Nodup) {seen : Fields}
    (found : ∀ f ∈ declared, Assoc.find? f.key seen = Assoc.find? f.key fields) :
    assemble seen declared = .ok fields := by
  induction filled with
  | empty => rfl
  | @written f j declared fields _ kept others ih =>
    rw [List.map_cons, List.nodup_cons] at distinct
    rw [List.forall_mem_cons] at found
    have here : Assoc.find? f.key seen = some j := by
      rw [found.1, Assoc.find?, if_pos rfl]
    have later : ∀ g ∈ declared, Assoc.find? g.key seen = Assoc.find? g.key fields := by
      intro g member
      have other : f.key ≠ g.key := fun same => distinct.1 (same ▸ List.mem_map_of_mem member)
      rw [found.2 g member, Assoc.find?, if_neg other]
    have entry : f.entry j = [(f.key, j)] := by
      unfold Field.entry
      split
      · rename_i omitted
        rcases kept with kept | there
        · exact absurd omitted kept
        · simp [there]
      · rfl
    simp [Json.assemble, here, entry, ih distinct.2 later, bind, Except.bind, pure, Except.pure]
  | @omitted f declared fields absence others ih =>
    rw [List.map_cons, List.nodup_cons] at distinct
    rw [List.forall_mem_cons] at found
    have missing : Assoc.find? f.key seen = none := by
      rw [found.1]
      exact Assoc.find?_eq_none fun there => distinct.1 (others.keys_sublist.subset there)
    simp [Json.assemble, missing, absence, ih distinct.2 found.2, bind, Except.bind, pure, Except.pure]

end Filled

/-- A record is restored from the fields that are written of it. -/
theorem restored_record {declared : List (Field Schema)} {fields : Fields} (filled : Filled depth declared fields)
    (distinct : (declared.map (·.key)).Nodup) (name : String) :
    Restored (depth + 1) (.record name declared) (.obj fields) := by
  intro allowed deep rest _
  cases allowed with
  | zero => cases deep
  | succ allowed =>
    have deep : depth ≤ allowed := Nat.le_of_succ_le_succ deep
    refine readValue_record ?_ name
    have assembled := filled.assemble distinct fun _ _ => rfl
    obtain ⟨written, some_, reads, rfl⟩ := filled.present
    have reading := readKnown_write (s := .verbose) declared written
      (fun f member rest delimited => reads f member allowed deep rest delimited)
      (fun f member => findField_of_mem distinct (some_.subset (List.mem_map_of_mem member)))
      (by simpa [Function.comp_def] using distinct.sublist (some_.map (·.key))) rest
    have text : formFields .verbose written = written.map fun f => (f.1.key, f.2) := rfl
    rw [text] at reading
    simp only [readRecord, inside, reading, assembled, bind, Except.bind, pure, Except.pure]

end DeviceTwin.Json
