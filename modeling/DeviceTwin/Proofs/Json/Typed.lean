import DeviceTwin.Proofs.Json.Sound

/-!
Typed values. A value that has a type (`Typed`) is written by a serializer and read back by the schema of its type
(`Serializer.ofWire_typed`), for the compact serializer too, which leaves out fields that are `null`: a field may be
`null` only where the schema restores it. What a serializer makes of a value is its `form`, and the form of a form is
the form itself.
-/
namespace DeviceTwin.Json
open DeviceTwin.Number DeviceTwin.Text

/-- A value of the type that a schema is for, as it is written. Fields that are left out, and numbers other than
    integers within bounds, do not occur in it. -/
inductive Typed : Schema → Json → Prop where
  | integer (name : String) {least greatest n : Int} (low : least ≤ n) (high : n ≤ greatest) :
      Typed (.integer name least greatest) (.int n)
  | boolean (b : Bool) : Typed .boolean (.bool b)
  | text (s : String) : Typed .text (.str s)
  | unit : Typed .unit .null
  | absent (schema : Schema) : Typed (.optional schema) .null
  | present {schema : Schema} {j : Json} (inner : Typed schema j) (there : j.isNull = false) :
      Typed (.optional schema) j
  | sequence {schema : Schema} {items : List Json} (inside : ∀ j ∈ items, Typed schema j) :
      Typed (.sequence schema) (.arr items)
  | record (name : String) {fields : List (Field Schema × Json)} (distinct : (fields.map (·.1.key)).Nodup)
      (inside : ∀ f ∈ fields, Typed f.1.schema f.2)
      (kept : ∀ f ∈ fields, f.1.absence = .nullable ∨ f.1.absence = .required ∧ f.2.isNull = false) :
      Typed (.record name (fields.map (·.1))) (.obj (fields.map fun f => (f.1.key, f.2)))

variable {schema : Schema} {j : Json} {depth fuel : Nat} {rest : List Char}

theorem Typed.exact (typed : Typed schema j) : Exact j := by
  induction typed with
  | integer _ _ _ => exact .int _
  | boolean b => exact .bool b
  | text s => exact .str s
  | unit => exact .null
  | absent _ => exact .null
  | present _ _ ih => exact ih
  | sequence _ ih => exact .arr ih
  | record name distinct _ _ ih =>
    refine .obj ?_ fun f member => ?_
    · rwa [Assoc.keys, List.map_map]
    · obtain ⟨g, inside, rfl⟩ := List.mem_map.mp member
      exact ih g inside

end DeviceTwin.Json

/-! ### Forms -/

namespace DeviceTwin.Serializer
open DeviceTwin.Json

/-- What a serializer makes of a document. -/
def form : Serializer → Json → Json
  | .compact, j => j.withoutNulls
  | .verbose, j => j

/-- A serializer writes a field with this value. -/
def keeps : Serializer → Json → Bool
  | .compact, j => !j.isNull
  | .verbose, _ => true

variable (s : Serializer) {schema : Schema} {j : Json} {depth : Nat}

theorem fieldsWithoutNulls_eq (fields : Fields) :
    fieldsWithoutNulls fields = (fields.filter fun f => !f.2.isNull).map fun f => (f.1, f.2.withoutNulls) := by
  induction fields with
  | nil => rfl
  | cons f fields ih =>
    obtain ⟨k, v⟩ := f
    cases null : v.isNull <;> simp [fieldsWithoutNulls, null, ih]

theorem itemsWithoutNulls_eq (items : List Json) : itemsWithoutNulls items = items.map withoutNulls := by
  induction items with
  | nil => rfl
  | cons j items ih => simp [itemsWithoutNulls, ih]

theorem form_arr (items : List Json) : s.form (.arr items) = .arr (items.map s.form) := by
  cases s with
  | compact => simp [form, withoutNulls, itemsWithoutNulls_eq]
  | verbose => exact congrArg Json.arr (List.map_id' items).symm

theorem form_obj (fields : Fields) :
    s.form (.obj fields) = .obj ((fields.filter fun f => s.keeps f.2).map fun f => (f.1, s.form f.2)) := by
  cases s with
  | compact => simp [form, keeps, withoutNulls, fieldsWithoutNulls_eq]
  | verbose => simp [form, keeps]

@[simp] theorem form_null : s.form .null = .null := by cases s <;> rfl
@[simp] theorem form_bool (b : Bool) : s.form (.bool b) = .bool b := by cases s <;> rfl
@[simp] theorem form_num (n : Json.Number) : s.form (.num n) = .num n := by cases s <;> rfl
@[simp] theorem form_str (text : String) : s.form (.str text) = .str text := by cases s <;> rfl

@[simp] theorem isNull_form : (s.form j).isNull = j.isNull := by
  cases s <;> cases j <;> rfl

@[simp] theorem keeps_form : s.keeps (s.form j) = s.keeps j := by
  cases s <;> cases j <;> rfl

theorem keeps_of_isNull {s : Serializer} {j : Json} (there : j.isNull = false) : s.keeps j = true := by
  cases s with
  | compact => simp [keeps, there]
  | verbose => rfl

theorem null_of_keeps (left : s.keeps j = false) : j = .null := by
  cases s with
  | compact =>
    cases j with
    | null => rfl
    | _ => cases left
  | verbose => cases left

theorem isDocument_form (document : IsDocument depth j) : IsDocument depth (s.form j) := by
  cases s with
  | compact => exact isDocument_withoutNulls document
  | verbose => exact document

theorem form_form (document : IsDocument depth j) : s.form (s.form j) = s.form j := by
  induction document with
  | null => simp
  | bool => simp
  | num => simp
  | str => simp
  | arr inside ih =>
    simp only [form_arr, List.map_map, Json.arr.injEq, List.map_inj_left, Function.comp_apply]
    exact ih
  | obj inside ih =>
    simp only [form_obj, List.filter_map, List.map_map, Function.comp_def, keeps_form, List.filter_filter,
      Bool.and_self, Json.obj.injEq]
    refine List.map_congr_left fun f member => ?_
    rw [ih f (List.mem_of_mem_filter member)]

theorem exact_form (exact_ : Exact j) : Exact (s.form j) := by
  induction exact_ with
  | null => simpa using Exact.null
  | bool b => simpa using Exact.bool b
  | int n => simpa using Exact.int n
  | str text => simpa using Exact.str text
  | arr inside ih =>
    rw [form_arr]
    refine .arr fun j member => ?_
    obtain ⟨k, here, rfl⟩ := List.mem_map.mp member
    exact ih k here
  | obj distinct inside ih =>
    rw [form_obj]
    refine .obj ?_ fun f member => ?_
    · rw [Assoc.keys, List.map_map]
      exact distinct.sublist (List.filter_sublist.map _)
    · obtain ⟨g, here, rfl⟩ := List.mem_map.mp member
      exact ih g (List.mem_of_mem_filter here)

/-- A serializer writes the form of a document. -/
theorem prepare_document (document : IsDocument depth j) : s.prepare (.value j) = .ok (s.form j) := by
  cases s with
  | compact => simp [prepare, toDocument_of_isDocument document, form]
  | verbose => rfl

/-- What a payload holds of a value without floating-point numbers. -/
theorem toWire_exact (document : IsDocument depthLimit j) (exact_ : Exact j) :
    s.toWire (.value j) = .ok (s.form j) := by
  obtain ⟨j', reading, same⟩ := read_print (s.isDocument_form document)
  rw [same (s.exact_form exact_)] at reading
  simp [toWire, serialize, deserialize, s.prepare_document document, reading, bind, Except.bind]

end DeviceTwin.Serializer

/-! ### Reading -/

namespace DeviceTwin.Json
open DeviceTwin.Number DeviceTwin.Text

section Records
variable {value : Schema → List Char → Read Json} {declared : List (Field Schema)} {s : Serializer} {seen : Fields}
  {f : Field Schema × Json} {fields : List (Field Schema × Json)} {fuel : Nat}

/-- The fields of a record as a serializer writes them. -/
def formFields (s : Serializer) (fields : List (Field Schema × Json)) : Fields :=
  fields.map fun f => (f.1.key, s.form f.2)

/-- A reader of values reads a field back. -/
def ReadsField (value : Schema → List Char → Read Json) (s : Serializer) (f : Field Schema × Json) : Prop :=
  ∀ rest, Delimited rest → value f.1.schema ((s.form f.2).write ++ rest) = .ok (f.2, rest)

theorem readKnown_field (reads : ReadsField value s f) (known : findField f.1.key declared = some f.1)
    (new : f.1.key ∉ Assoc.keys seen) (first : Bool) {rest : List Char} (delimited : Delimited rest) :
    readKnown value declared (fuel + 1) first seen (comma first ++ (writeField (f.1.key, s.form f.2) ++ rest)) =
      readKnown value declared fuel false (seen ++ [(f.1.key, f.2)]) rest := by
  rw [readKnown]
  simp only [nextKey_field, readText_write, String.ofList_toList, known, Assoc.find?_eq_none new, readColon_colon,
    reads rest delimited, bind, Except.bind, if_true, Option.isSome_none, Bool.false_eq_true, if_false]

/-- The fields of a record that are written are read back, behind those that are read already. -/
theorem readKnown_onto (reads : ∀ f ∈ fields, ReadsField value s f)
    (known : ∀ f ∈ fields, findField f.1.key declared = some f.1) (distinct : (fields.map (·.1.key)).Nodup)
    (new : ∀ f ∈ fields, f.1.key ∉ Assoc.keys seen) (enough : fields.length < fuel) (first : Bool)
    (rest : List Char) :
    readKnown value declared fuel first seen (fieldsFrom first (formFields s fields) ++ '\x7d' :: rest) =
      .ok (seen ++ fields.map (fun f => (f.1.key, f.2)), rest) := by
  induction fields generalizing fuel first seen with
  | nil =>
    cases fuel with
    | zero => cases enough
    | succ fuel =>
      rw [formFields, List.map_nil, readKnown, nextKey_end, List.map_nil, List.append_nil]
      rfl
  | cons f fields ih =>
    cases fuel with
    | zero => cases enough
    | succ fuel =>
      rw [List.forall_mem_cons] at reads known new
      rw [List.map_cons, List.nodup_cons] at distinct
      have text : formFields s (f :: fields) = (f.1.key, s.form f.2) :: formFields s fields := rfl
      have later : ∀ g ∈ fields, g.1.key ∉ Assoc.keys (seen ++ [(f.1.key, f.2)]) := by
        intro g member
        simp only [Assoc.keys, List.map_append, List.map_cons, List.map_nil, List.mem_append, List.mem_singleton,
          not_or]
        exact ⟨new.2 g member, fun same => distinct.1 (same ▸ List.mem_map_of_mem member)⟩
      rw [text, fieldsFrom_cons, List.append_assoc, List.append_assoc,
        readKnown_field reads.1 known.1 new.1 first (delimited_fieldsFrom _ rest),
        ih reads.2 known.2 distinct.2 later (Nat.lt_of_succ_lt_succ enough), List.append_assoc]
      rfl

/-- The fields of a record that are written are read back. -/
theorem readKnown_write (declared : List (Field Schema)) (fields : List (Field Schema × Json))
    (reads : ∀ f ∈ fields, ReadsField value s f)
    (known : ∀ f ∈ fields, findField f.1.key declared = some f.1) (distinct : (fields.map (·.1.key)).Nodup)
    (rest : List Char) :
    readKnown value declared ((writeFields (formFields s fields) ++ '\x7d' :: rest).length + 1) true []
      (writeFields (formFields s fields) ++ '\x7d' :: rest) = .ok (fields.map fun f => (f.1.key, f.2), rest) := by
  have new : ∀ f ∈ fields, f.1.key ∉ Assoc.keys ([] : Fields) := by simp [Assoc.keys]
  have enough := length_fieldsFrom_lt true (formFields s fields) rest
  rw [formFields, List.length_map, ← formFields] at enough
  exact readKnown_onto reads known distinct new enough true rest

theorem findField_of_mem {f : Field Schema} (distinct : (declared.map (·.key)).Nodup) (member : f ∈ declared) :
    findField f.key declared = some f := by
  induction declared with
  | nil => cases member
  | cons g declared ih =>
    rw [List.map_cons, List.nodup_cons] at distinct
    rw [findField]
    rcases List.mem_cons.mp member with rfl | later
    · exact if_pos rfl
    · have other : g.key ≠ f.key := fun same => distinct.1 (same ▸ List.mem_map_of_mem later)
      rw [if_neg other, ih distinct.2 later]

/-- Fields that are not there are restored as `null`. -/
theorem assemble_of (restored : ∀ f ∈ fields, f.1.absence ≠ .omitted ∧
      (Assoc.find? f.1.key seen = some f.2 ∨
        Assoc.find? f.1.key seen = none ∧ f.1.absence = .nullable ∧ f.2 = .null)) :
    assemble seen (fields.map (·.1)) = .ok (fields.map fun f => (f.1.key, f.2)) := by
  induction fields with
  | nil => rfl
  | cons f fields ih =>
    rw [List.forall_mem_cons] at restored
    obtain ⟨⟨unomitted, here⟩, later⟩ := restored
    rw [List.map_cons, assemble, ih later]
    rcases here with found | ⟨missing, nullable, null⟩
    · have entry : f.1.entry f.2 = [(f.1.key, f.2)] := by
        unfold Field.entry
        split
        · rename_i omitted
          exact absurd omitted unomitted
        · rfl
      simp [found, entry, bind, Except.bind, pure, Except.pure]
    · simp [missing, nullable, null, bind, Except.bind, pure, Except.pure]

/-- A record is read back: fields that are not written are those that are restored. -/
theorem readRecord_write (reads : ∀ f ∈ fields, ReadsField value s f) (distinct : (fields.map (·.1.key)).Nodup)
    (kept : ∀ f ∈ fields, f.1.absence = .nullable ∨ f.1.absence = .required ∧ f.2.isNull = false)
    (rest : List Char) :
    readRecord (some value) (fields.map (·.1))
        (writeFields (formFields s (fields.filter fun f => s.keeps f.2)) ++ '\x7d' :: rest) =
      .ok (.obj (fields.map fun f => (f.1.key, f.2)), rest) := by
  have declared : ((fields.map (·.1)).map (·.key)).Nodup := by rwa [List.map_map]
  have written := readKnown_write (fields.map (·.1)) (fields.filter fun f => s.keeps f.2)
    (fun f member => reads f (List.mem_of_mem_filter member))
    (fun f member => findField_of_mem declared (List.mem_map_of_mem (List.mem_of_mem_filter member)))
    (distinct.sublist (List.filter_sublist.map _)) rest
  have restored : assemble ((fields.filter fun f => s.keeps f.2).map fun f => (f.1.key, f.2)) (fields.map (·.1)) =
      .ok (fields.map fun f => (f.1.key, f.2)) := by
    refine assemble_of fun f member => ⟨?_, ?_⟩
    · rcases kept f member with nullable | ⟨required, _⟩
      · simp [nullable]
      · simp [required]
    · have keys : (Assoc.keys ((fields.filter fun f => s.keeps f.2).map fun f => (f.1.key, f.2))).Nodup := by
        rw [Assoc.keys, List.map_map]
        exact distinct.sublist (List.filter_sublist.map _)
      cases written : s.keeps f.2 with
      | true => exact .inl (Assoc.find?_of_mem keys (List.mem_map.mpr ⟨f, List.mem_filter.mpr ⟨member, written⟩, rfl⟩))
      | false =>
        have null := s.null_of_keeps written
        refine .inr ⟨Assoc.find?_eq_none fun there => ?_, ?_, null⟩
        · simp only [Assoc.keys, List.map_map, List.mem_map, List.mem_filter] at there
          obtain ⟨g, ⟨inside, keeps⟩, same⟩ := there
          obtain rfl := List.inj_on_of_nodup_map distinct inside member same
          rw [written] at keeps
          cases keeps
        · rcases kept f member with nullable | ⟨_, there⟩
          · exact nullable
          · rw [null] at there
            cases there
  simp only [readRecord, inside, written, restored, bind, Except.bind, pure, Except.pure]

end Records

variable {s : Serializer} {schema : Schema} {j : Json} {depth : Nat} {rest : List Char}

theorem readValue_eq (depth : Nat) (schema : Schema) (cs : List Char) :
    readValue depth schema cs = readWith (innerOf depth) schema cs := by
  cases depth <;> rfl

/-- A value of a type does not look like `null`, unless it is. -/
theorem write_ne_null (document : IsDocument depth j) (there : j.isNull = false) (cs : List Char) :
    j.write ≠ 'n' :: cs := by
  cases document with
  | null => cases there
  | bool _ b => cases b <;> simp [write]
  | num _ number =>
    obtain ⟨negative, body, written, reads⟩ := write_number number
    obtain ⟨_, reading, _⟩ := reads [] trivial
    obtain ⟨c, tail, begins, digit⟩ := isDigit_of_readNumber reading
    rw [List.append_nil] at begins
    rw [write, written, begins]
    cases negative with
    | true => simp
    | false =>
      intro same
      rw [(List.cons.inj same).1] at digit
      cases digit
  | str => simp [write, writeText]
  | arr => simp [write]
  | obj => simp [write]

/-- A value that is not `null` is read as an option by the schema of the option's content. -/
theorem readWith_optional (document : IsDocument depth j) (there : j.isNull = false) (inner : Inner)
    (schema : Schema) (rest : List Char) :
    readWith inner (.optional schema) (j.write ++ rest) = readWith inner schema (j.write ++ rest) := by
  have skips := skipSpace_of_begins ((begins_write document).append rest)
  rw [readWith, skips]
  split
  · rename_i tail same
    obtain ⟨c, cs, first, _⟩ := begins_write document
    rw [first] at same
    obtain rfl := (List.cons.inj same).1
    exact absurd first (write_ne_null document there cs)
  · rfl

/-- Items that are read back are read back as an array. -/
theorem readValue_sequence {items : List Json} (text : Json → Json)
    (documents : ∀ j ∈ items, IsDocument depth (text j))
    (reads : ∀ j ∈ items, ∀ rest, Delimited rest → readValue depth schema ((text j).write ++ rest) = .ok (j, rest))
    (rest : List Char) :
    readValue (depth + 1) (.sequence schema) ((Json.arr (items.map text)).write ++ rest) = .ok (.arr items, rest) := by
  have enough := length_itemsFrom_lt true (items.map text) rest
  rw [List.length_map] at enough
  obtain ⟨js, reading, same⟩ := readItems_write (P := Eq) text
    (fun j member rest delimited => ⟨j, reads j member rest delimited, rfl⟩)
    (fun j member => begins_write (documents j member)) enough true rest
  rw [List.forall₂_eq_eq_eq] at same
  subst same
  have written : (Json.arr (items.map text)).write ++ rest =
      '[' :: (itemsFrom true (items.map text) ++ ']' :: rest) := by
    simp [write, itemsFrom]
  have begins (cs : List Char) : readValue (depth + 1) (.sequence schema) ('[' :: cs) =
      readItems (readValue depth schema) (cs.length + 1) true cs >>= fun r => .ok (.arr r.1, r.2) := rfl
  rw [written, begins, reading]
  rfl

/-- Fields that are read as a record are read as one between brackets. -/
theorem readValue_record {declared : List (Field Schema)} {fields : Fields}
    (reads : readRecord (some (readValue depth)) declared (writeFields fields ++ '\x7d' :: rest) = .ok (j, rest))
    (name : String) :
    readValue (depth + 1) (.record name declared) ((Json.obj fields).write ++ rest) = .ok (j, rest) := by
  have written : (Json.obj fields).write ++ rest = '\x7b' :: (writeFields fields ++ '\x7d' :: rest) := by simp [write]
  rw [written]
  exact reads

/-- What a serializer writes of a value is read back by the type of the value. -/
theorem readValue_typed (typed : Typed schema j) (document : IsDocument depth j) (delimited : Delimited rest) :
    readValue depth schema ((s.form j).write ++ rest) = .ok (j, rest) := by
  rw [readValue_eq]
  induction typed generalizing depth rest with
  | @integer name least greatest n low high =>
    cases document with
    | num _ number =>
      obtain ⟨n', reading, same⟩ := readNumberAs_write number name (acceptInteger name least greatest) delimited
      have accepted : acceptInteger name least greatest (.int n) = .ok (.int n) := by
        simp [acceptInteger, low, high]
      have skips := skipSpace_of_begins ((begins_number number).append rest)
      rw [same n rfl, accepted] at reading
      rw [show Json.int n = .num (.int n) from rfl, s.form_num, write, readWith, skips, reading]
      rfl
  | boolean b =>
    rw [s.form_bool]
    cases b <;> rfl
  | text text =>
    have begins : (Json.str text).write ++ rest = '"' :: (text.toList.flatMap escapeChar ++ '"' :: rest) := by
      simp [write, writeText]
    have reads : readWith (innerOf depth) .text ('"' :: (text.toList.flatMap escapeChar ++ '"' :: rest)) =
        readText (text.toList.flatMap escapeChar ++ '"' :: rest) >>= fun r => .ok (.str r.1, r.2) := rfl
    rw [s.form_str, begins, reads, readText_write, String.ofList_toList]
    rfl
  | unit =>
    rw [s.form_null]
    rfl
  | absent inner =>
    rw [s.form_null]
    rfl
  | @present inner j typed there ih =>
    have there' : (s.form j).isNull = false := by rwa [s.isNull_form]
    rw [readWith_optional (s.isDocument_form document) there']
    exact ih document delimited
  | @sequence inner items inside ih =>
    cases document with
    | @arr depth _ documents =>
      rw [s.form_arr, ← readValue_eq (depth + 1)]
      refine readValue_sequence s.form (fun j member => s.isDocument_form (documents j member)) ?_ rest
      intro j member rest delimited
      rw [readValue_eq]
      exact ih j member (documents j member) delimited
  | @record name fields distinct inside kept ih =>
    cases document with
    | @obj depth _ documents =>
      have reads : ∀ f ∈ fields, ReadsField (readValue depth) s f := by
        intro f member rest delimited
        rw [readValue_eq]
        exact ih f member (documents _ (List.mem_map_of_mem member)) delimited
      have written : s.form (.obj (fields.map fun f => (f.1.key, f.2))) =
          .obj (formFields s (fields.filter fun f => s.keeps f.2)) := by
        simp [s.form_obj, formFields, List.filter_map, Function.comp_def]
      rw [written]
      exact readValue_record (readRecord_write reads distinct kept rest) name

end DeviceTwin.Json

namespace DeviceTwin.Serializer
open DeviceTwin.Json

/-- What a payload holds of a value is converted to the value by its type. -/
theorem ofWire_typed {schema : Schema} {j : Json} (s : Serializer) (typed : Typed schema j)
    (document : IsDocument depthLimit j) : s.ofWire schema (s.form j) = .ok j := by
  have prepared : s.prepare (.value (s.form j)) = .ok (s.form j) := by
    rw [s.prepare_document (s.isDocument_form document), s.form_form document]
  have reading := readValue_typed (s := s) typed document (show Delimited [] from trivial)
  rw [List.append_nil] at reading
  simp only [ofWire, serialize, deserialize, prepared, Json.read, print, String.toList_ofList, reading, bind,
    Except.bind, pure, Except.pure]
  rfl

end DeviceTwin.Serializer
