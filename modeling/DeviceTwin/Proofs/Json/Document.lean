import DeviceTwin.Proofs.Assoc
import DeviceTwin.Proofs.Json.Number
import DeviceTwin.Proofs.Json.Text
import DeviceTwin.Serializer

/-!
Whole documents. Every value that a document can hold is printed as a text that can be read again
(`readValue_write`), down to the depth that readers allow. What is read is the value itself (`Exact`) unless it holds a
floating-point number or a key twice.
-/
namespace DeviceTwin.Json
open DeviceTwin.Number DeviceTwin.Text

/-- A number that a document can hold. -/
def Number.IsDocument : Number → Prop
  | .int n => leastInt ≤ n ∧ n ≤ greatestInt
  | .double x => x.Fits DeviceTwin.Number.double
  | .single _ => False

/-- A value that a document can hold, its arrays and objects nested at most so deep. -/
inductive IsDocument : Nat → Json → Prop where
  | null (depth : Nat) : IsDocument depth .null
  | bool (depth : Nat) (b : Bool) : IsDocument depth (.bool b)
  | num (depth : Nat) {n : Number} (number : n.IsDocument) : IsDocument depth (.num n)
  | str (depth : Nat) (s : String) : IsDocument depth (.str s)
  | arr {depth : Nat} {items : List Json} (inside : ∀ j ∈ items, IsDocument depth j) :
      IsDocument (depth + 1) (.arr items)
  | obj {depth : Nat} {fields : List (String × Json)} (inside : ∀ f ∈ fields, IsDocument depth f.2) :
      IsDocument (depth + 1) (.obj fields)

/-- A value without floating-point numbers in which no object holds a key twice. -/
inductive Exact : Json → Prop where
  | null : Exact .null
  | bool (b : Bool) : Exact (.bool b)
  | int (n : Int) : Exact (.num (.int n))
  | str (s : String) : Exact (.str s)
  | arr {items : List Json} (inside : ∀ j ∈ items, Exact j) : Exact (.arr items)
  | obj {fields : List (String × Json)} (distinct : (Assoc.keys fields).Nodup) (inside : ∀ f ∈ fields, Exact f.2) :
      Exact (.obj fields)

variable {read : List Char → Read Json} {rest : List Char} {depth : Nat} {j : Json} {n : Number} {fuel : Nat}

/-- A document may be nested deeper than it is. -/
theorem IsDocument.mono {depth' : Nat} (document : IsDocument depth j) (deeper : depth ≤ depth') :
    IsDocument depth' j := by
  induction document generalizing depth' with
  | null => exact .null depth'
  | bool _ b => exact .bool depth' b
  | num _ number => exact .num depth' number
  | str _ s => exact .str depth' s
  | arr inside ih =>
    cases depth' with
    | zero => cases deeper
    | succ depth' => exact .arr fun j member => ih j member (Nat.le_of_succ_le_succ deeper)
  | obj inside ih =>
    cases depth' with
    | zero => cases deeper
    | succ depth' => exact .obj fun f member => ih f member (Nat.le_of_succ_le_succ deeper)

/-- A reader reads a value back from its text, whatever follows it. -/
def ReadsBack (read : List Char → Read Json) (j : Json) : Prop :=
  ∀ rest, Delimited rest → ∃ j', read (j.write ++ rest) = .ok (j', rest) ∧ (Exact j → j' = j)

/-- The text of a value begins with a character that a reader does not pass over. -/
def Begins (l : List Char) : Prop :=
  ∃ c tail, l = c :: tail ∧ isSpace c = false ∧ c ≠ ']'

theorem skipSpace_of_begins (begins : Begins rest) : skipSpace rest = rest := by
  obtain ⟨c, tail, rfl, space, _⟩ := begins
  exact List.dropWhile_cons_of_neg (by simp [space])

theorem Begins.append {l : List Char} (begins : Begins l) (rest : List Char) : Begins (l ++ rest) := by
  obtain ⟨c, tail, rfl, space, bracket⟩ := begins
  exact ⟨c, tail ++ rest, rfl, space, bracket⟩

/-! ### Numbers -/

theorem begins_digit {c : Char} (digit : c.isDigit = true) (tail : List Char) : Begins (c :: tail) := by
  refine ⟨c, tail, rfl, ?_, ?_⟩
  · simp only [isSpace, Bool.or_eq_false_iff, decide_eq_false_iff_not]
    refine ⟨⟨⟨?_, ?_⟩, ?_⟩, ?_⟩ <;> (rintro rfl; revert digit; decide)
  · rintro rfl
    revert digit
    decide

/-- A number that is read begins with a digit. -/
theorem isDigit_of_readNumber {negative : Bool} {cs : List Char} {r : Number × List Char}
    (reading : readNumber negative cs = .ok r) : ∃ c tail, cs = c :: tail ∧ c.isDigit = true := by
  unfold readNumber at reading
  split at reading
  · cases reading
  · exact ⟨_, _, rfl, rfl⟩
  · split at reading
    · exact ⟨_, _, rfl, by assumption⟩
    · cases reading

/-- The text of a number is a sign, if it is negative, and what is read after it. -/
theorem write_number (document : n.IsDocument) :
    ∃ negative body, n.write = (if negative then ['-'] else []) ++ body ∧
      ∀ rest, Delimited rest → ∃ n',
        readNumber negative (body ++ rest) = .ok (n', rest) ∧ ∀ k, n = .int k → n' = n := by
  match n with
  | .int k =>
    obtain ⟨negative, body, written, reads⟩ := readNumber_int document.1 document.2
    exact ⟨negative, body, written, fun rest delimited => ⟨_, reads rest delimited.numberEnds, fun _ _ => rfl⟩⟩
  | .double x =>
    by_cases zero : x.isZero = true
    · refine ⟨x.negative, ['0', '.', '0'], by simp [Number.write, Binary.write, zero], fun rest delimited => ?_⟩
      obtain ⟨y, reading⟩ := readNumber_zero delimited x.negative
      exact ⟨_, reading, by simp⟩
    · have positive : 0 < x.mantissa := Nat.pos_of_ne_zero fun none => zero (by simp [Binary.isZero, none])
      refine ⟨x.negative, _, by simp only [Number.write, Binary.write, if_neg zero]; rfl, fun rest delimited => ?_⟩
      obtain ⟨y, reading⟩ := readNumber_double document positive delimited x.negative
      exact ⟨_, reading, by simp⟩
  | .single _ => exact document.elim

theorem begins_number (document : n.IsDocument) : Begins n.write := by
  obtain ⟨negative, body, written, reads⟩ := write_number document
  rw [written]
  cases negative with
  | true => exact ⟨'-', body, rfl, rfl, by decide⟩
  | false =>
    obtain ⟨_, reading, _⟩ := reads [] trivial
    obtain ⟨c, tail, same, digit⟩ := isDigit_of_readNumber reading
    rw [List.append_nil] at same
    subst same
    exact begins_digit digit tail

theorem readDocument_digit {c : Char} (digit : c.isDigit = true) (inner : Inner) (tail : List Char) :
    readDocument inner (c :: tail) = readNumberAs "" (fun n => .ok (.num n)) (c :: tail) := by
  rw [readDocument.eq_9, if_pos digit]
  all_goals
    rintro rfl
    revert digit
    decide

/-- What is read after the sign of a number is read where a number is wanted. -/
theorem readNumberAs_signed {negative : Bool} {body : List Char} (reading : readNumber negative body = .ok (n, rest))
    (expected : String) (accept : Number → Except ReadError Json) :
    readNumberAs expected accept ((if negative then ['-'] else []) ++ body) = (accept n).map fun j => (j, rest) := by
  cases negative with
  | true =>
    simp only [if_true, List.cons_append, List.nil_append, readNumberAs, reading, bind, Except.bind, pure, Except.pure]
    cases accept n <;> rfl
  | false =>
    obtain ⟨c, tail, rfl, digit⟩ := isDigit_of_readNumber reading
    have unsigned : c ≠ '-' := by
      rintro rfl
      revert digit
      decide
    simp only [Bool.false_eq_true, if_false, List.nil_append]
    unfold readNumberAs
    split
    · rename_i minus
      exact absurd (List.cons.inj minus).1 unsigned
    · rename_i same
      cases same
      simp only [digit, reading, bind, Except.bind, pure, Except.pure, if_true]
      cases accept n <;> rfl
    · rename_i none
      cases none

theorem readDocument_signed {negative : Bool} {body : List Char} (reading : readNumber negative body = .ok (n, rest))
    (inner : Inner) : readDocument inner ((if negative then ['-'] else []) ++ body) = .ok (.num n, rest) := by
  have number := readNumberAs_signed reading "" fun n => .ok (.num n)
  rw [← show _ = Except.ok (Json.num n, rest) from number]
  cases negative with
  | true => rfl
  | false =>
    obtain ⟨c, tail, rfl, digit⟩ := isDigit_of_readNumber reading
    simp only [Bool.false_eq_true, if_false, List.nil_append]
    exact readDocument_digit digit inner tail

/-- A number is read back where one is wanted, an integer as itself. -/
theorem readNumberAs_write (document : n.IsDocument) (expected : String) (accept : Number → Except ReadError Json)
    (delimited : Delimited rest) :
    ∃ n', readNumberAs expected accept (n.write ++ rest) = (accept n').map (fun j => (j, rest)) ∧
      ∀ k, n = .int k → n' = n := by
  obtain ⟨negative, body, written, reads⟩ := write_number document
  obtain ⟨n', reading, same⟩ := reads rest delimited
  refine ⟨n', ?_, same⟩
  rw [written, List.append_assoc, readNumberAs_signed reading]

/-- A number is read back as a number, an integer as itself. -/
theorem readDocument_number (document : n.IsDocument) (inner : Inner) (delimited : Delimited rest) :
    ∃ n', readDocument inner (n.write ++ rest) = .ok (.num n', rest) ∧ ∀ k, n = .int k → n' = n := by
  obtain ⟨negative, body, written, reads⟩ := write_number document
  obtain ⟨n', reading, same⟩ := reads rest delimited
  refine ⟨n', ?_, same⟩
  rw [written, List.append_assoc, readDocument_signed reading]

/-! ### Arrays and objects -/

theorem begins_write (document : IsDocument depth j) : Begins j.write := by
  cases document with
  | null => exact ⟨'n', _, rfl, rfl, by decide⟩
  | bool _ b => cases b <;> exact ⟨_, _, rfl, rfl, by decide⟩
  | num _ number => exact begins_number number
  | str => exact ⟨'"', _, rfl, rfl, by decide⟩
  | arr => exact ⟨'[', _, rfl, rfl, by decide⟩
  | obj => exact ⟨'\x7b', _, rfl, rfl, by decide⟩

/-- The items after the first one, each behind a comma. -/
def itemsTail (items : List Json) : List Char :=
  items.flatMap fun j => ',' :: j.write

theorem writeItems_cons (j : Json) (items : List Json) : writeItems (j :: items) = j.write ++ itemsTail items := by
  induction items generalizing j with
  | nil => simp [writeItems, itemsTail]
  | cons k items ih => simp [writeItems, ih k, itemsTail]

theorem nextItem_comma {cs : List Char} (begins : Begins cs) : nextItem false (',' :: cs) = .ok (true, cs) := by
  have space := skipSpace_of_begins begins
  have comma : skipSpace (',' :: cs) = ',' :: cs := rfl
  obtain ⟨c, tail, rfl, _, bracket⟩ := begins
  simp [nextItem, comma, space, bracket]

theorem nextItem_first {cs : List Char} (begins : Begins cs) : nextItem true cs = .ok (true, cs) := by
  have space := skipSpace_of_begins begins
  obtain ⟨c, tail, rfl, _, bracket⟩ := begins
  simp [nextItem, space]

/-- What stands before an item or a field. -/
def comma (first : Bool) : List Char :=
  if first then [] else [',']

/-- The items from the first one or from a later one on. -/
def itemsFrom (first : Bool) (items : List Json) : List Char :=
  if first then writeItems items else itemsTail items

theorem itemsFrom_cons (first : Bool) (j : Json) (items : List Json) :
    itemsFrom first (j :: items) = comma first ++ (j.write ++ itemsFrom false items) := by
  cases first with
  | true => simp [itemsFrom, comma, writeItems_cons]
  | false => simp [itemsFrom, comma, itemsTail]

theorem delimited_itemsFrom (items : List Json) (rest : List Char) :
    Delimited (itemsFrom false items ++ ']' :: rest) := by
  cases items with
  | nil => exact .inr (.inl rfl)
  | cons j items => exact .inl rfl

/-- Every item but the first has a comma before it, and the bracket follows. -/
theorem length_itemsFrom_lt (first : Bool) (items : List Json) (rest : List Char) :
    items.length < (itemsFrom first items ++ ']' :: rest).length + 1 := by
  have commas : items.length ≤ (itemsFrom false items).length := by
    induction items with
    | nil => exact Nat.le_refl 0
    | cons j items ih =>
      simp only [itemsFrom_cons, comma, Bool.false_eq_true, if_false, List.length_append, List.length_cons]
      omega
  cases items with
  | nil => exact Nat.succ_pos _
  | cons j items =>
    simp only [itemsFrom_cons, comma, Bool.false_eq_true, if_false, List.length_append, List.length_cons,
      List.length_nil] at commas ⊢
    omega

theorem begins_comma {cs : List Char} (first : Bool) (begins : Begins cs) : Begins (comma first ++ cs) := by
  cases first with
  | true => exact begins
  | false => exact ⟨',', cs, rfl, rfl, by decide⟩

theorem nextItem_begins {cs : List Char} (first : Bool) (begins : Begins cs) :
    nextItem first (comma first ++ cs) = .ok (true, cs) := by
  cases first with
  | true => exact nextItem_first begins
  | false => exact nextItem_comma begins

theorem nextItem_end (first : Bool) (rest : List Char) :
    nextItem first (itemsFrom first [] ++ ']' :: rest) = .ok (false, rest) := by
  cases first <;> rfl

section Items
variable {α : Type} {text : α → Json} {P : α → Json → Prop} {items : List α}

/-- The items of an array are read back, if each of them is: what is read in its place is what `P` says. -/
theorem readItems_write (text : α → Json)
    (reads : ∀ x ∈ items, ∀ rest, Delimited rest → ∃ j, read ((text x).write ++ rest) = .ok (j, rest) ∧ P x j)
    (begins : ∀ x ∈ items, Begins (text x).write) (enough : items.length < fuel) (first : Bool) (rest : List Char) :
    ∃ js, readItems read fuel first (itemsFrom first (items.map text) ++ ']' :: rest) = .ok (js, rest) ∧
      List.Forall₂ P items js := by
  induction items generalizing fuel first with
  | nil =>
    cases fuel with
    | zero => cases enough
    | succ fuel =>
      refine ⟨[], ?_, .nil⟩
      rw [List.map_nil, readItems, nextItem_end]
      rfl
  | cons x items ih =>
    cases fuel with
    | zero => cases enough
    | succ fuel =>
      rw [List.forall_mem_cons] at reads begins
      obtain ⟨j, reading, here⟩ := reads.1 _ (delimited_itemsFrom (items.map text) rest)
      obtain ⟨js, others, all⟩ := ih reads.2 begins.2 (Nat.lt_of_succ_lt_succ enough) false
      have next := nextItem_begins first (begins.1.append (itemsFrom false (items.map text) ++ ']' :: rest))
      refine ⟨j :: js, ?_, .cons here all⟩
      simp only [List.map_cons, itemsFrom_cons, List.append_assoc, readItems, next, reading, others, bind, Except.bind,
        pure, Except.pure, if_true]

end Items

/-- A field, from its key to its value. -/
def writeField (f : String × Json) : List Char :=
  writeText f.1.toList ++ ':' :: f.2.write

/-- The fields after the first one, each behind a comma. -/
def fieldsTail (fields : List (String × Json)) : List Char :=
  fields.flatMap fun f => ',' :: writeField f

theorem writeFields_cons (f : String × Json) (fields : List (String × Json)) :
    writeFields (f :: fields) = writeField f ++ fieldsTail fields := by
  induction fields generalizing f with
  | nil => simp [writeFields, writeField, fieldsTail]
  | cons g fields ih => simp [writeFields, ih g, writeField, fieldsTail]

/-- The fields from the first one or from a later one on. -/
def fieldsFrom (first : Bool) (fields : Fields) : List Char :=
  if first then writeFields fields else fieldsTail fields

theorem fieldsFrom_cons (first : Bool) (f : String × Json) (fields : Fields) :
    fieldsFrom first (f :: fields) = comma first ++ (writeField f ++ fieldsFrom false fields) := by
  cases first with
  | true => simp [fieldsFrom, comma, writeFields_cons]
  | false => simp [fieldsFrom, comma, fieldsTail]

theorem delimited_fieldsFrom (fields : Fields) (rest : List Char) :
    Delimited (fieldsFrom false fields ++ '\x7d' :: rest) := by
  cases fields with
  | nil => exact .inr (.inr rfl)
  | cons f fields => exact .inl rfl

theorem length_fieldsFrom_lt (first : Bool) (fields : Fields) (rest : List Char) :
    fields.length < (fieldsFrom first fields ++ '\x7d' :: rest).length + 1 := by
  induction fields generalizing first with
  | nil => exact Nat.succ_pos _
  | cons f fields ih =>
    have later := ih false
    simp only [fieldsFrom_cons, writeField, List.length_append, List.length_cons] at later ⊢
    omega

theorem nextKey_field (first : Bool) (f : String × Json) (cs : List Char) :
    nextKey first (comma first ++ (writeField f ++ cs)) =
      .ok (true, f.1.toList.flatMap escapeChar ++ '"' :: ':' :: (f.2.write ++ cs)) := by
  have text : writeField f ++ cs = '"' :: (f.1.toList.flatMap escapeChar ++ '"' :: ':' :: (f.2.write ++ cs)) := by
    simp [writeField, writeText]
  rw [text]
  cases first <;> rfl

theorem nextKey_end (first : Bool) (rest : List Char) :
    nextKey first (fieldsFrom first [] ++ '\x7d' :: rest) = .ok (false, rest) := by
  cases first <;> rfl

theorem readColon_colon (cs : List Char) : readColon (':' :: cs) = .ok cs := rfl

/-- The fields of an object are read back, onto those that are read already. -/
theorem readEntries_write {fields : Fields} (reads : ∀ f ∈ fields, ReadsBack read f.2) (enough : fields.length < fuel)
    (first : Bool) (entries : Fields) (rest : List Char) :
    ∃ fields', readEntries read fuel first entries (fieldsFrom first fields ++ '\x7d' :: rest) =
      .ok (Assoc.extend entries fields', rest) ∧ ((∀ f ∈ fields, Exact f.2) → fields' = fields) := by
  induction fields generalizing fuel first entries with
  | nil =>
    cases fuel with
    | zero => cases enough
    | succ fuel =>
      refine ⟨[], ?_, fun _ => rfl⟩
      rw [readEntries, nextKey_end]
      rfl
  | cons f fields ih =>
    cases fuel with
    | zero => cases enough
    | succ fuel =>
      rw [List.forall_mem_cons] at reads
      obtain ⟨v, reading, same⟩ := reads.1 _ (delimited_fieldsFrom fields rest)
      obtain ⟨fields', others, sames⟩ :=
        ih reads.2 (Nat.lt_of_succ_lt_succ enough) false (Assoc.insert f.1 v entries)
      refine ⟨(f.1, v) :: fields', ?_, fun exact_ => ?_⟩
      · simp only [fieldsFrom_cons, List.append_assoc, readEntries, nextKey_field, readText_write, String.ofList_toList,
          readColon_colon, reading, others, bind, Except.bind, if_true]
        rfl
      · rw [List.forall_mem_cons] at exact_
        rw [same exact_.1, sames exact_.2]

/-! ### Documents -/

/-- What reads inside of a value that may be nested so deep. -/
def innerOf : Nat → Inner
  | 0 => none
  | depth + 1 => some (readValue depth)

theorem readValue_document (depth : Nat) (cs : List Char) :
    readValue depth .document cs = readDocument (innerOf depth) (skipSpace cs) := by
  cases depth <;> simp only [readValue, readWith, innerOf]

theorem eq_of_exact {items items' : List Json} (read : List.Forall₂ (fun j j' => Exact j → j' = j) items items')
    (exact_ : ∀ j ∈ items, Exact j) : items' = items := by
  induction read with
  | nil => rfl
  | cons here others ih =>
    rw [List.forall_mem_cons] at exact_
    rw [here exact_.1, ih exact_.2]

/-- Every value that a document can hold is read back from its text. -/
theorem readValue_write (document : IsDocument depth j) : ReadsBack (readValue depth .document) j := by
  induction document with
  | null =>
    intro rest _
    exact ⟨.null, by rw [readValue_document]; rfl, fun _ => rfl⟩
  | bool _ b =>
    intro rest _
    cases b with
    | true => exact ⟨.bool true, by rw [readValue_document]; rfl, fun _ => rfl⟩
    | false => exact ⟨.bool false, by rw [readValue_document]; rfl, fun _ => rfl⟩
  | @num depth n number =>
    intro rest delimited
    obtain ⟨n', reading, same⟩ := readDocument_number number (innerOf depth) delimited
    refine ⟨.num n', ?_, fun exact_ => ?_⟩
    · rw [readValue_document, write, skipSpace_of_begins ((begins_number number).append rest), reading]
    · cases exact_ with
      | int k => rw [same k rfl]
  | str depth s =>
    intro rest _
    refine ⟨.str s, ?_, fun _ => rfl⟩
    have text : (Json.str s).write ++ rest = '"' :: (s.toList.flatMap escapeChar ++ '"' :: rest) := by
      simp [write, writeText]
    have begins : readDocument (innerOf depth) ('"' :: (s.toList.flatMap escapeChar ++ '"' :: rest)) =
        readText (s.toList.flatMap escapeChar ++ '"' :: rest) >>= fun r => .ok (.str r.1, r.2) := rfl
    rw [readValue_document, text, skipSpace_of_begins ⟨'"', _, rfl, rfl, by decide⟩, begins, readText_write,
      String.ofList_toList]
    rfl
  | @arr depth items inside ih =>
    intro rest _
    obtain ⟨items', reading, same⟩ := readItems_write id ih (fun j member => begins_write (inside j member))
      (length_itemsFrom_lt true items rest) true rest
    rw [List.map_id] at reading
    refine ⟨.arr items', ?_, fun exact_ => ?_⟩
    · have text : (Json.arr items).write ++ rest = '[' :: (itemsFrom true items ++ ']' :: rest) := by
        simp [write, itemsFrom]
      have begins (cs : List Char) : readDocument (innerOf (depth + 1)) ('[' :: cs) =
          readItems (readValue depth .document) (cs.length + 1) true cs >>= fun r => .ok (.arr r.1, r.2) := rfl
      rw [readValue_document, text, skipSpace_of_begins ⟨'[', _, rfl, rfl, by decide⟩, begins, reading]
      rfl
    · cases exact_ with
      | arr exact_ => rw [eq_of_exact same exact_]
  | @obj depth fields inside ih =>
    intro rest _
    obtain ⟨fields', reading, same⟩ := readEntries_write ih (length_fieldsFrom_lt true fields rest) true [] rest
    refine ⟨.obj (Assoc.extend [] fields'), ?_, fun exact_ => ?_⟩
    · have text : (Json.obj fields).write ++ rest = '\x7b' :: (fieldsFrom true fields ++ '\x7d' :: rest) := by
        simp [write, fieldsFrom]
      have begins (cs : List Char) : readDocument (innerOf (depth + 1)) ('\x7b' :: cs) =
          readEntries (readValue depth .document) (cs.length + 1) true [] cs >>= fun r => .ok (.obj r.1, r.2) := rfl
      rw [readValue_document, text, skipSpace_of_begins ⟨'\x7b', _, rfl, rfl, by decide⟩, begins, reading]
      rfl
    · cases exact_ with
      | obj distinct exact_ => rw [same exact_, Assoc.extend_new (by simp [Assoc.keys]) distinct, List.nil_append]

/-- The text of a document is read whole. -/
theorem read_print (document : IsDocument depthLimit j) :
    ∃ j', Json.read .document j.print = .ok j' ∧ (Exact j → j' = j) := by
  obtain ⟨j', reading, same⟩ := readValue_write document [] trivial
  refine ⟨j', ?_, same⟩
  rw [List.append_nil] at reading
  simp only [Json.read, print, String.toList_ofList, reading, bind, Except.bind, pure, Except.pure]
  rfl

/-- The compact text of a value without floating-point numbers holds the value. -/
theorem parse_print (document : IsDocument depthLimit j) (exact_ : Exact j) : Json.parse j.print = .ok j := by
  obtain ⟨read, reading, same⟩ := read_print document
  rw [same exact_] at reading
  exact reading

/-- The text of an object is read alike as a document and as a map of documents. -/
theorem read_mapping (fields : Fields) :
    Json.read (.mapping .document) (Json.obj fields).print = Json.read .document (Json.obj fields).print := by
  have same (depth : Nat) (cs : List Char) :
      readValue depth (.mapping .document) ('\x7b' :: cs) = readValue depth .document ('\x7b' :: cs) := by
    cases depth <;> rfl
  simp only [Json.read, print, write, String.toList_ofList, List.cons_append, same]

/-! ### Documents as they are written -/

theorem itemsToDocument_of {items : List Json} (same : ∀ j ∈ items, toDocument j = some j) :
    itemsToDocument items = some items := by
  induction items with
  | nil => rfl
  | cons j items ih =>
    rw [List.forall_mem_cons] at same
    simp [itemsToDocument, same.1, ih same.2]

theorem fieldsToDocument_of {fields : List (String × Json)} (same : ∀ f ∈ fields, toDocument f.2 = some f.2) :
    fieldsToDocument fields = some fields := by
  induction fields with
  | nil => rfl
  | cons f fields ih =>
    rw [List.forall_mem_cons] at same
    obtain ⟨k, v⟩ := f
    have value : toDocument v = some v := same.1
    simp [fieldsToDocument, value, ih same.2]

/-- A value that a document can hold becomes itself there. -/
theorem toDocument_of_isDocument (document : IsDocument depth j) : j.toDocument = some j := by
  induction document with
  | null => rfl
  | bool => rfl
  | @num _ n number =>
    match n with
    | .int k =>
      have range : leastInt ≤ k ∧ k ≤ greatestInt := number
      simp [toDocument, Number.toDocument, range]
    | .double _ => rfl
    | .single _ => exact number.elim
  | str => rfl
  | arr inside ih => simp [toDocument, itemsToDocument_of ih]
  | obj inside ih => simp [toDocument, fieldsToDocument_of ih]

theorem mem_itemsWithoutNulls {items : List Json} (member : j ∈ itemsWithoutNulls items) :
    ∃ j' ∈ items, j'.withoutNulls = j := by
  induction items with
  | nil => cases member
  | cons k items ih =>
    rcases List.mem_cons.mp member with rfl | later
    · exact ⟨k, List.mem_cons_self, rfl⟩
    · obtain ⟨j', inside, same⟩ := ih later
      exact ⟨j', List.mem_cons_of_mem k inside, same⟩

theorem mem_fieldsWithoutNulls {fields : List (String × Json)} {f : String × Json}
    (member : f ∈ fieldsWithoutNulls fields) : ∃ g ∈ fields, g.2.withoutNulls = f.2 := by
  induction fields with
  | nil => cases member
  | cons g fields ih =>
    obtain ⟨k, v⟩ := g
    rw [fieldsWithoutNulls] at member
    split at member
    · obtain ⟨g', inside, same⟩ := ih member
      exact ⟨g', List.mem_cons_of_mem _ inside, same⟩
    · rcases List.mem_cons.mp member with rfl | later
      · exact ⟨(k, v), List.mem_cons_self, rfl⟩
      · obtain ⟨g', inside, same⟩ := ih later
        exact ⟨g', List.mem_cons_of_mem _ inside, same⟩

/-- A document stays one when its fields that are `null` are left out. -/
theorem isDocument_withoutNulls (document : IsDocument depth j) : IsDocument depth j.withoutNulls := by
  induction document with
  | null => exact .null _
  | bool _ b => exact .bool _ b
  | num _ number => exact .num _ number
  | str _ s => exact .str _ s
  | arr inside ih =>
    refine .arr fun j member => ?_
    obtain ⟨j', before, rfl⟩ := mem_itemsWithoutNulls member
    exact ih j' before
  | obj inside ih =>
    refine .obj fun f member => ?_
    obtain ⟨g, before, same⟩ := mem_fieldsWithoutNulls member
    rw [← same]
    exact ih g before

end DeviceTwin.Json

namespace DeviceTwin.Serializer
open DeviceTwin.Json

/-- A document can be written, and read again, by every serializer. -/
theorem toWire_document {j : Json} (document : IsDocument depthLimit j) (s : Serializer) :
    ∃ j', s.toWire (.value j) = .ok j' := by
  have written : ∃ k, s.prepare (.value j) = .ok k ∧ IsDocument depthLimit k := by
    cases s with
    | compact => exact ⟨j.withoutNulls, by simp [prepare, toDocument_of_isDocument document],
        isDocument_withoutNulls document⟩
    | verbose => exact ⟨j, rfl, document⟩
  obtain ⟨k, prepared, document⟩ := written
  obtain ⟨j', reading, _⟩ := read_print document
  exact ⟨j', by simp [toWire, serialize, deserialize, prepared, reading, bind, Except.bind]⟩

/-- What a document holds is something that a reader has read. -/
theorem readValue_of_ofWire {s : Serializer} {schema : Schema} {raw value : Json}
    (converts : s.ofWire schema raw = .ok value) :
    ∃ cs rest, readValue depthLimit schema cs = .ok (value, rest) := by
  simp only [ofWire, deserialize, bind, Except.bind] at converts
  split at converts
  · cases converts
  split at converts
  · rename_i read
    cases converts
    simp only [Json.read, bind, Except.bind] at read
    split at read
    · cases read
    split at read
    · cases read
    · rename_i reading _ _ _
      cases read
      exact ⟨_, _, reading⟩
  · cases converts

end DeviceTwin.Serializer
