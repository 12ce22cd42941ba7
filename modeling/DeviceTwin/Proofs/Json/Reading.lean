import DeviceTwin.Proofs.Json.Parts
import DeviceTwin.Proofs.Json.Skipping

/-!
Reading by a schema. What a reader makes of the text of a document is the value that the document stands for by the
schema, and the text of a document of another shape is refused (`readValue_as`). What is no option is read by the
schema of an option's content, so there is one lemma for each kind of document, over all schemas but that of options.
-/
namespace DeviceTwin.Json
open DeviceTwin.Number DeviceTwin.Text

section Values
variable {schema : Schema} {j : Json} {depth : Nat} {inner : Inner} {items : List Json} {fields : Fields}

theorem readWith_core (document : IsDocument depth j) (there : j.isNull = false) (inner : Inner) (rest : List Char) :
    (schema : Schema) → readWith inner schema.core (j.write ++ rest) = readWith inner schema (j.write ++ rest)
  | .optional s => by
    rw [Schema.core, readWith_core document there inner rest s, readWith_optional document there]
  | .integer _ _ _ | .wide | .double | .single | .boolean | .text | .unit | .document | .sequence _ | .mapping _
  | .variant _ | .record _ _ => rfl

/-- What is not `null` is read by the schema of an option as by that of its content. -/
theorem ReadsAs.of_core (reads : ReadsAs (readWith inner schema.core) schema.core.ofDocument? j)
    (document : IsDocument depth j) (there : j.isNull = false) :
    ReadsAs (readWith inner schema) schema.ofDocument? j := by
  intro rest delimited
  rw [← readWith_core document there, ← Schema.ofDocument?_core there, reads rest delimited]

theorem readsAs_null (inner : Inner) (schema : Schema) : ReadsAs (readWith inner schema) schema.ofDocument? .null := by
  intro rest _
  cases schema <;> rfl

theorem readsAs_bool (plain : schema.Plain) (inner : Inner) (b : Bool) :
    ReadsAs (readWith inner schema) schema.ofDocument? (.bool b) := by
  intro rest _
  cases b <;> cases schema
  all_goals first | rfl | cases plain

theorem toOption_readWith_text (plain : schema.Plain) (inner : Inner) (cs : List Char) :
    (readWith inner schema ('"' :: cs)).toOption =
      (readText cs).toOption.bind fun r => (schema.ofDocument? (.str r.1)).map fun value => (value, r.2) := by
  cases schema with
  | optional => cases plain
  | text =>
    have text : readWith inner .text ('"' :: cs) = readText cs >>= fun r => .ok (.str r.1, r.2) := rfl
    rw [text, toOption_bind]
    rfl
  | document =>
    have text : readWith inner .document ('"' :: cs) = readText cs >>= fun r => .ok (.str r.1, r.2) := rfl
    rw [text, toOption_bind]
    rfl
  | «variant» names =>
    have text : readWith inner (.variant names) ('"' :: cs) = readText cs >>= fun r =>
        if names.contains r.1 then .ok (.str r.1, r.2) else .error (.unknownVariant r.1 names) := rfl
    rw [text, toOption_bind]
    congr 1
    funext r
    simp only [Schema.ofDocument?]
    split <;> rfl
  | _ => cases readText cs <;> rfl

theorem readsAs_str (plain : schema.Plain) (inner : Inner) (s : String) :
    ReadsAs (readWith inner schema) schema.ofDocument? (.str s) := by
  intro rest _
  have text : (Json.str s).write ++ rest = '"' :: (s.toList.flatMap escapeChar ++ '"' :: rest) := by
    simp [write, writeText]
  rw [text, toOption_readWith_text plain, readText_write, String.ofList_toList]
  rfl

/-- A character that a number may begin with. -/
def numberStarts : List Char :=
  ['-', '0', '1', '2', '3', '4', '5', '6', '7', '8', '9']

theorem mem_numberStarts {c : Char} (digit : c.isDigit = true) : c ∈ numberStarts := by
  obtain ⟨low, high⟩ := toNat_of_isDigit digit
  have starts : ∀ n < 58, 48 ≤ n → Char.ofNat n ∈ numberStarts := by decide
  rw [← Char.ofNat_toNat c]
  exact starts c.toNat (by omega) low

theorem signedDecimal_starts (n : Int) : ∃ c tail, signedDecimal n = c :: tail ∧ c ∈ numberStarts := by
  by_cases negative : n < 0
  · exact ⟨'-', decimal n.natAbs, by simp [signedDecimal, negative], List.mem_cons_self⟩
  · cases numeral : decimal n.natAbs with
    | nil => exact absurd numeral (decimal_ne_nil _)
    | cons c tail =>
      have digit : c.isDigit = true := isDigit_decimal n.natAbs c (by rw [numeral]; exact List.mem_cons_self)
      exact ⟨c, tail, by simp [signedDecimal, negative, numeral], mem_numberStarts digit⟩

/-- A number is not read where none is wanted. -/
theorem toOption_readWith_number {c : Char} (starts : c ∈ numberStarts) (plain : schema.Plain)
    (other : ¬ schema.Numeric) (inner : Inner) (cs : List Char) :
    (readWith inner schema (c :: cs)).toOption = none := by
  cases schema with
  | optional => cases plain
  | integer => exact absurd trivial other
  | wide => exact absurd trivial other
  | double => exact absurd trivial other
  | single => exact absurd trivial other
  | document => exact absurd trivial other
  | _ =>
    simp only [numberStarts, List.mem_cons, List.not_mem_nil, or_false] at starts
    rcases starts with rfl | rfl | rfl | rfl | rfl | rfl | rfl | rfl | rfl | rfl | rfl <;> rfl

/-- A number is read where one is wanted, if it is accepted. -/
theorem readsAs_accepted {n : Int} (number : (Number.int n).IsDocument) (expected : String)
    (accept : Number → Except ReadError Json)
    (reads : ∀ cs, readWith inner schema cs = readNumberAs expected accept (skipSpace cs))
    (converts : schema.ofDocument? (.num (.int n)) = (accept (.int n)).toOption) :
    ReadsAs (readWith inner schema) schema.ofDocument? (.num (.int n)) := by
  intro rest delimited
  obtain ⟨n', reading, same⟩ := readNumberAs_write number expected accept delimited
  rw [same n rfl] at reading
  rw [reads, write, skipSpace_of_begins ((begins_number number).append rest), reading, converts]
  cases accept (.int n) <;> rfl

theorem takeWhile_digits {ds rest : List Char} (digits : Digits ds) (ends : startsWithDigit rest = false) :
    (ds ++ rest).takeWhile Char.isDigit = ds := by
  rw [List.takeWhile_append_of_pos digits]
  cases rest with
  | nil => simp
  | cons c rest => simp [List.takeWhile_cons_of_neg (show ¬ c.isDigit = true by simpa [startsWithDigit] using ends)]

theorem readWide_digits {cs : List Char} (starts : startsWithDigit cs = true) (leading : ∀ tail, cs ≠ '0' :: tail) :
    readWide cs = if ofDecimalFrom 0 (cs.takeWhile Char.isDigit) ≤ wideLimit then
        .ok (.int (ofDecimalFrom 0 (cs.takeWhile Char.isDigit)), cs.dropWhile Char.isDigit)
      else .error .numberOutOfRange := by
  have some_ : cs ≠ [] := by
    rintro rfl
    cases starts
  have minus : ∀ tail, cs ≠ '-' :: tail := by
    rintro tail rfl
    cases starts
  rw [readWide.eq_4 cs some_ minus leading, if_pos starts]

theorem readWide_decimal {n : Nat} {rest : List Char} (small : n ≤ wideLimit) (ends : startsWithDigit rest = false) :
    readWide (decimal n ++ rest) = .ok (.int n, rest) := by
  have value := ofDecimalFrom_decimal 0 n
  rw [Nat.zero_mul, Nat.zero_add] at value
  obtain ⟨digits, zero | ⟨c, tail, numeral, leading⟩⟩ := numeral_decimal n
  · rw [zero] at value ⊢
    subst value
    simp [readWide, ends]
  · have starts : startsWithDigit (decimal n ++ rest) = true := by
      rw [startsWithDigit_append digits ends, numeral]
      rfl
    have leading : ∀ l, decimal n ++ rest ≠ '0' :: l := by
      intro l same
      rw [numeral] at same
      exact leading (List.cons.inj same).1
    rw [readWide_digits starts leading, takeWhile_digits digits ends, dropWhile_digits digits ends, value, if_pos small]

theorem readsAs_wide {n : Int} (number : (Number.int n).IsDocument) (inner : Inner) :
    ReadsAs (readWith inner .wide) Schema.wide.ofDocument? (.num (.int n)) := by
  intro rest delimited
  have skips := skipSpace_of_begins ((begins_number number).append rest)
  obtain ⟨-, high⟩ := number
  rw [readWith, write, skips, Number.write, Schema.ofDocument?]
  by_cases negative : n < 0
  · have refused : ¬ (0 ≤ n ∧ n ≤ wideLimit) := by omega
    rw [if_neg refused, signedDecimal, if_pos negative]
    rfl
  · have small : n.natAbs ≤ wideLimit := by
      unfold greatestInt at high
      unfold wideLimit
      omega
    have value : (n.natAbs : Int) = n := by omega
    have accepted : 0 ≤ n ∧ n ≤ wideLimit := by omega
    rw [if_pos accepted, signedDecimal, if_neg negative, readWide_decimal small delimited.ends, value]
    rfl

theorem readsAs_num (plain : schema.Plain) {n : Int} (number : (Number.int n).IsDocument) (inner : Inner) :
    ReadsAs (readWith inner schema) schema.ofDocument? (.num (.int n)) := by
  cases schema with
  | optional => cases plain
  | integer name least greatest =>
    refine readsAs_accepted number name (acceptInteger name least greatest) (fun _ => rfl) ?_
    simp only [Schema.ofDocument?, acceptInteger]
    split <;> rfl
  | wide => exact readsAs_wide number inner
  | double => exact readsAs_accepted number "f64" acceptDouble (fun _ => rfl) rfl
  | single => exact readsAs_accepted number "f32" acceptSingle (fun _ => rfl) rfl
  | document =>
    intro rest delimited
    obtain ⟨n', reading, same⟩ := readDocument_number number inner delimited
    rw [same n rfl] at reading
    rw [readWith, write, skipSpace_of_begins ((begins_number number).append rest), reading]
    rfl
  | _ =>
    intro rest _
    obtain ⟨c, tail, text, starts⟩ := signedDecimal_starts n
    rw [write, Number.write, text]
    exact toOption_readWith_number starts plain not_false inner (tail ++ rest)

/-- Any document is read as itself where any is wanted. -/
theorem readsAs_document (document : IsDocument depth j) (exact_ : Exact j) :
    ReadsAs (readWith (innerOf depth) .document) Schema.document.ofDocument? j := by
  intro rest delimited
  obtain ⟨j', reading, same⟩ := readValue_write document rest delimited
  rw [same exact_] at reading
  rw [← readValue_eq, reading]
  rfl

theorem readsAs_arr (plain : schema.Plain) (distinct : schema.Distinct)
    (document : IsDocument (depth + 1) (.arr items)) (exact_ : Exact (.arr items))
    (reads : ∀ j ∈ items, ∀ s : Schema, s.Distinct → ReadsAs (readValue depth s) s.ofDocument? j) :
    ReadsAs (readWith (innerOf (depth + 1)) schema) schema.ofDocument? (.arr items) := by
  intro rest delimited
  have text : (Json.arr items).write ++ rest = '[' :: (itemsFrom true items ++ ']' :: rest) := by
    simp [write, itemsFrom]
  have begins : ∀ j ∈ items, Begins j.write := by
    cases document with
    | arr documents => exact fun j member => begins_write (documents j member)
  have enough := length_itemsFrom_lt true items rest
  cases schema with
  | optional => cases plain
  | document => exact readsAs_document document exact_ rest delimited
  | sequence s =>
    have step (cs : List Char) : readWith (innerOf (depth + 1)) (.sequence s) ('[' :: cs) =
      readItems (readValue depth s) (cs.length + 1) true cs >>= fun r => .ok (.arr r.1, r.2) := rfl
    rw [text, step, toOption_bind, readItems_as (fun j member => reads j member s distinct) begins enough,
      Schema.ofDocument?]
    cases items.mapM s.ofDocument? <;> rfl
  | record name declared =>
    obtain ⟨once, all⟩ := distinct
    have step (cs : List Char) : readWith (innerOf (depth + 1)) (.record name declared) ('[' :: cs) =
      readTuple (readValue depth) name declared.length 0 declared cs >>= fun r => .ok (.obj r.1, r.2) := rfl
    have tuple : (readTuple (readValue depth) name declared.length 0 declared
        (itemsFrom true items ++ ']' :: rest)).toOption =
          (Schema.tupleOf? declared items).map fun fields => (fields, rest) :=
      readTuple_as (fun j member f declares => reads j member f.schema (all.of_mem declares)) begins name
        declared.length 0 rest
    rw [text, step, toOption_bind, tuple, Schema.ofDocument?]
    cases Schema.tupleOf? declared items <;> rfl
  | _ =>
    rw [text]
    rfl

/-- A variant is read from an object with nothing but its name and `null`. -/
theorem readVariantObject_as (reads : ∀ f ∈ fields, ReadsAs readUnit Schema.unit.ofDocument? f.2)
    (names : List String) (rest : List Char) :
    (readVariantObject names (fieldsFrom true fields ++ '\x7d' :: rest)).toOption =
      ((Schema.variant names).ofDocument? (.obj fields)).map fun value => (value, rest) := by
  cases fields with
  | nil => rfl
  | cons f fields =>
    obtain ⟨name, j⟩ := f
    rw [List.forall_mem_cons] at reads
    have text : fieldsFrom true ((name, j) :: fields) ++ '\x7d' :: rest = '"' ::
        (name.toList.flatMap escapeChar ++ '"' :: ':' :: (j.write ++ (fieldsFrom false fields ++ '\x7d' :: rest))) := by
      simp [fieldsFrom_cons, comma, writeField, writeText]
    have skips (cs : List Char) : skipSpace ('"' :: cs) = '"' :: cs := rfl
    have unit := reads.1 _ (delimited_fieldsFrom fields rest)
    rw [text, readVariantObject, skips, readVariantName]
    simp only [toOption_bind, readText_write, String.ofList_toList, toOption_ok, Option.bind_some]
    by_cases listed : names.contains name = true
    · simp only [if_pos listed, pure, Except.pure, toOption_ok, Option.bind_some, readColon_colon, unit]
      cases j with
      | null =>
        cases fields with
        | nil =>
          simp only [Schema.ofDocument?, if_pos listed]
          rfl
        | cons f fields => rfl
      | _ => cases fields <;> rfl
    · simp only [if_neg listed, throw, throwThe, MonadExceptOf.throw, toOption_error, Option.bind_none]
      cases j with
      | null =>
        cases fields with
        | nil => simp only [Schema.ofDocument?, if_neg listed, Option.map_none]
        | cons f fields => rfl
      | _ => cases fields <;> rfl

theorem readsAs_obj (plain : schema.Plain) (distinct : schema.Distinct)
    (document : IsDocument (depth + 1) (.obj fields)) (exact_ : Exact (.obj fields))
    (reads : ∀ f ∈ fields, ∀ s : Schema, s.Distinct → ReadsAs (readValue depth s) s.ofDocument? f.2) :
    ReadsAs (readWith (innerOf (depth + 1)) schema) schema.ofDocument? (.obj fields) := by
  intro rest delimited
  have text : (Json.obj fields).write ++ rest = '\x7b' :: (fieldsFrom true fields ++ '\x7d' :: rest) := by
    simp [write, fieldsFrom]
  have keys : (Assoc.keys fields).Nodup := by
    cases exact_ with
    | obj keys _ => exact keys
  cases schema with
  | optional => cases plain
  | document => exact readsAs_document document exact_ rest delimited
  | mapping s =>
    have enough := length_fieldsFrom_lt true fields rest
    have new : ∀ k ∈ Assoc.keys fields, k ∉ Assoc.keys ([] : Fields) := by simp [Assoc.keys]
    have step (cs : List Char) : readWith (innerOf (depth + 1)) (.mapping s) ('\x7b' :: cs) =
      readEntries (readValue depth s) (cs.length + 1) true [] cs >>= fun r => .ok (.obj r.1, r.2) := rfl
    rw [text, step, toOption_bind, readEntries_as (fun f member => reads f member s distinct) keys new enough,
      Schema.ofDocument?]
    cases fields.mapM fun f => (s.ofDocument? f.2).map (f.1, ·) <;> rfl
  | «variant» names =>
    have step (cs : List Char) : readWith (innerOf (depth + 1)) (.variant names) ('\x7b' :: cs) =
      readVariantObject names cs := rfl
    have units : ∀ f ∈ fields, ReadsAs readUnit Schema.unit.ofDocument? f.2 := by
      intro f member rest delimited
      have unit := reads f member .unit trivial rest delimited
      rwa [readValue_eq, readWith] at unit
    rw [text, step, readVariantObject_as units]
  | record name declared =>
    obtain ⟨once, all⟩ := distinct
    have step (cs : List Char) : readWith (innerOf (depth + 1)) (.record name declared) ('\x7b' :: cs) =
      readRecord (some (readValue depth)) declared cs := rfl
    have skips : ∀ f ∈ fields, ∀ cs, Delimited cs → skipValue (f.2.write ++ cs) = .ok cs := by
      cases document with
      | obj documents =>
        cases exact_ with
        | obj _ exacts => exact fun f member _ => skipValue_write (documents f member) (exacts f member)
    have below : ∀ f ∈ fields, ReadsAll (readValue depth) declared f.2 :=
      fun f member g declares => reads f member g.schema (all.of_mem declares)
    rw [text, step, readRecord_as below skips keys once, Schema.ofDocument?]
    cases Schema.recordOf? declared fields <;> rfl
  | _ =>
    rw [text]
    rfl

theorem readsAs_readValue {convert : Json → Option Json} :
    ReadsAs (readValue depth schema) convert j ↔ ReadsAs (readWith (innerOf depth) schema) convert j := by
  simp only [ReadsAs, readValue_eq]

/-- What a reader makes of the text of a document is the value that the document stands for. -/
theorem readValue_as (document : IsDocument depth j) (exact_ : Exact j) (schema : Schema) (distinct : schema.Distinct) :
    ReadsAs (readValue depth schema) schema.ofDocument? j := by
  -- The induction is on the document: by which schema its items and fields are read is known only inside.
  induction document generalizing schema with
  | null => exact readsAs_readValue.mpr (readsAs_null _ schema)
  | bool depth b =>
    exact readsAs_readValue.mpr ((readsAs_bool schema.plain_core _ b).of_core (.bool depth b) rfl)
  | num depth number =>
    cases exact_ with
    | int n => exact readsAs_readValue.mpr ((readsAs_num schema.plain_core number _).of_core (.num depth number) rfl)
  | str depth s =>
    exact readsAs_readValue.mpr ((readsAs_str schema.plain_core _ s).of_core (.str depth s) rfl)
  | arr inside ih =>
    have reads := readsAs_arr schema.plain_core (schema.distinct_core distinct) (.arr inside) exact_ fun j member => by
      cases exact_ with
      | arr exacts => exact ih j member (exacts j member)
    exact readsAs_readValue.mpr (reads.of_core (.arr inside) rfl)
  | obj inside ih =>
    have reads := readsAs_obj schema.plain_core (schema.distinct_core distinct) (.obj inside) exact_ fun f member => by
      cases exact_ with
      | obj _ exacts => exact ih f member (exacts f member)
    exact readsAs_readValue.mpr (reads.of_core (.obj inside) rfl)

/-- The text of a document is read as the value that the document stands for, and refused if it stands for none. -/
theorem read_print_as (document : IsDocument depthLimit j) (exact_ : Exact j) (distinct : schema.Distinct) :
    (Json.read schema j.print).toOption = schema.ofDocument? j := by
  have reading := readValue_as document exact_ schema distinct [] trivial
  rw [List.append_nil] at reading
  rw [Json.read, print, String.toList_ofList, toOption_bind, reading]
  cases schema.ofDocument? j <;> rfl

end Values
end DeviceTwin.Json
