import DeviceTwin.Proofs.Json.Document
import Mathlib.Data.List.DropRight

/-!
Spellings. A value has many texts: blanks may stand around each of its parts, a character of a text stands as it is or
behind a backslash, and a key may be set again, which replaces its value. Whichever of them is read, the value is what
is read (`parse_of_spells`); the text that a document is printed as is one of them (`spells_write`).
-/
namespace DeviceTwin.Json
open DeviceTwin.Text

/-! ### Texts in quotes -/

/-- The letters that stand for characters behind a backslash. -/
def escapeLetters : List (Char × Char) :=
  [('"', '"'), ('\\', '\\'), ('/', '/'), ('b', Char.ofNat 0x8), ('f', Char.ofNat 0xC), ('n', '\n'), ('r', '\r'),
    ('t', '\t')]

/-- A number by four hexadecimal digits, small or capital ones. -/
def FourDigits (n : Nat) (l : List Char) : Prop :=
  ∃ a b c d, l = [a, b, c, d] ∧ hex4? a b c d = some n

/-- The spellings of a character. -/
inductive SpellsChar : Char → List Char → Prop where
  | plain {c : Char} (noQuote : c ≠ '"') (noSlash : c ≠ '\\') (printable : 0x20 ≤ c.toNat) : SpellsChar c [c]
  | letter {c e : Char} (escape : (e, c) ∈ escapeLetters) : SpellsChar c ['\\', e]
  | code {c : Char} {digits : List Char} (number : FourDigits c.toNat digits) : SpellsChar c ('\\' :: 'u' :: digits)
  /-- A character beyond U+FFFF is a pair of surrogates. -/
  | pair {c : Char} {n : Nat} {high low : List Char} (beyond : c.toNat = 0x10000 + n)
      (first : FourDigits (0xD800 + n / 0x400) high) (second : FourDigits (0xDC00 + n % 0x400) low) :
      SpellsChar c ('\\' :: 'u' :: high ++ '\\' :: 'u' :: low)

/-- The spellings of a text, character by character. -/
inductive SpellsText : List Char → List Char → Prop where
  | nil : SpellsText [] []
  | cons {c : Char} {l first more : List Char} (char : SpellsChar c first) (rest : SpellsText l more) :
      SpellsText (c :: l) (first ++ more)

/-- A text without quotes, backslashes and control characters may stand as it is. -/
theorem SpellsText.plain {l : List Char} (plain : ∀ c ∈ l, c ≠ '"' ∧ c ≠ '\\' ∧ 0x20 ≤ c.toNat) : SpellsText l l := by
  induction l with
  | nil => exact .nil
  | cons c l ih =>
    rw [List.forall_mem_cons] at plain
    obtain ⟨⟨noQuote, noSlash, printable⟩, others⟩ := plain
    exact .cons (.plain noQuote noSlash printable) (ih others)

/-! ### Values -/

/-- Nothing but blanks. -/
def Blank (l : List Char) : Prop := ∀ c ∈ l, isSpace c = true

/-- Parts from the first one or from a later one on, with a comma before every part but the first one. -/
def partsFrom (first : Bool) : List (List Char) → List Char
  | [] => []
  | part :: parts => comma first ++ (part ++ partsFrom false parts)

/-- A field of an object, as its key and its value are written. -/
structure FieldSpelling where
  key : String
  name : List Char
  value : Json
  text : List Char

namespace FieldSpelling

def entry (f : FieldSpelling) : String × Json := (f.key, f.value)

def written (f : FieldSpelling) : List Char := f.name ++ ':' :: f.text

/-- The key is written in quotes, with blanks around it. -/
def Named (f : FieldSpelling) : Prop :=
  ∃ before spelled behind, f.name = before ++ '"' :: (spelled ++ '"' :: behind) ∧ Blank before ∧ Blank behind ∧
    SpellsText f.key.toList spelled

end FieldSpelling

/-- The spellings of a value without floating-point numbers, its arrays and objects nested at most so deep in them. -/
inductive Spells : Nat → Json → List Char → Prop where
  | null (depth : Nat) : Spells depth .null "null".toList
  | bool (depth : Nat) (b : Bool) : Spells depth (.bool b) (if b then "true".toList else "false".toList)
  | int (depth : Nat) {n : Int} (least : leastInt ≤ n) (greatest : n ≤ greatestInt) :
      Spells depth (.int n) (signedDecimal n)
  | str (depth : Nat) {s : String} {spelled : List Char} (text : SpellsText s.toList spelled) :
      Spells depth (.str s) ('"' :: (spelled ++ ['"']))
  | arr {depth : Nat} {parts : List (Json × List Char)} {blank : List Char} (empty : Blank blank)
      (inside : ∀ p ∈ parts, Spells depth p.1 p.2) :
      Spells (depth + 1) (.arr (parts.map (·.1))) ('[' :: (blank ++ (partsFrom true (parts.map (·.2)) ++ [']'])))
  /-- Of the fields of the same key the last one counts, in the place of the first one. -/
  | obj {depth : Nat} {parts : List FieldSpelling} {blank : List Char} (empty : Blank blank)
      (named : ∀ p ∈ parts, p.Named) (inside : ∀ p ∈ parts, Spells depth p.value p.text) :
      Spells (depth + 1) (.obj (Assoc.extend [] (parts.map (·.entry))))
        ('\x7b' :: (blank ++ (partsFrom true (parts.map (·.written)) ++ ['\x7d'])))
  | padded {depth : Nat} {j : Json} {before text behind : List Char} (front : Blank before)
      (spelled : Spells depth j text) (back : Blank behind) : Spells depth j (before ++ (text ++ behind))

variable {c : Char} {l l' cs cs' spelled blank text part rest : List Char} {depth fuel n : Nat} {j : Json}
  {read : List Char → Read Json}

/-- A value may be nested deeper than it is. -/
theorem Spells.mono {depth' : Nat} (spelled : Spells depth j text) (deeper : depth ≤ depth') :
    Spells depth' j text := by
  induction spelled generalizing depth' with
  | null => exact .null depth'
  | bool _ b => exact .bool depth' b
  | int _ least greatest => exact .int depth' least greatest
  | str _ text => exact .str depth' text
  | arr empty inside ih =>
    cases depth' with
    | zero => cases deeper
    | succ depth' => exact .arr empty fun p member => ih p member (Nat.le_of_succ_le_succ deeper)
  | obj empty named inside ih =>
    cases depth' with
    | zero => cases deeper
    | succ depth' => exact .obj empty named fun p member => ih p member (Nat.le_of_succ_le_succ deeper)
  | padded front _ back ih => exact .padded front (ih deeper) back

/-! ### Reading texts in quotes -/

theorem shortEscape?_letters : ∀ p ∈ escapeLetters, shortEscape? p.1 = some p.2 := by
  decide

theorem isLowSurrogate_eq_false (outside : n < 0xD800 ∨ 0xDFFF < n) : isLowSurrogate n = false := by
  simp only [isLowSurrogate, Bool.and_eq_false_imp, decide_eq_true_eq, decide_eq_false_iff_not]
  omega

theorem isHighSurrogate_eq_false (outside : n < 0xD800 ∨ 0xDBFF < n) : isHighSurrogate n = false := by
  simp only [isHighSurrogate, Bool.and_eq_false_imp, decide_eq_true_eq, decide_eq_false_iff_not]
  omega

theorem readEscape_code (number : FourDigits c.toNat l) (rest : List Char) :
    readEscape ('u' :: (l ++ rest)) = .ok (c, rest) := by
  obtain ⟨x, y, z, w, rfl, value⟩ := number
  have valid : c.toNat < 0xD800 ∨ 0xDFFF < c.toNat := c.valid.imp_right And.left
  have escape : readEscape ('u' :: ([x, y, z, w] ++ rest)) = readCodePoint (x :: y :: z :: w :: rest) := rfl
  rw [escape]
  simp only [readCodePoint, value, isLowSurrogate_eq_false valid,
    isHighSurrogate_eq_false (valid.imp_right fun above => (by omega : 0xDBFF < c.toNat)), Char.ofNat_toNat]
  rfl

theorem readEscape_pair (beyond : c.toNat = 0x10000 + n) (first : FourDigits (0xD800 + n / 0x400) l)
    (second : FourDigits (0xDC00 + n % 0x400) l') (rest : List Char) :
    readEscape ('u' :: (l ++ '\\' :: 'u' :: (l' ++ rest))) = .ok (c, rest) := by
  obtain ⟨x, y, z, w, rfl, high⟩ := first
  obtain ⟨x', y', z', w', rfl, low⟩ := second
  have bounded : c.toNat < 0x110000 := by
    rcases c.valid with small | ⟨_, large⟩
    · exact Nat.lt_trans small (by decide)
    · exact large
  have escape : readEscape ('u' :: ([x, y, z, w] ++ '\\' :: 'u' :: ([x', y', z', w'] ++ rest))) =
      readCodePoint (x :: y :: z :: w :: '\\' :: 'u' :: x' :: y' :: z' :: w' :: rest) := rfl
  have notLow : isLowSurrogate (0xD800 + n / 0x400) = false := by
    simp only [isLowSurrogate, Bool.and_eq_false_imp, decide_eq_true_eq, decide_eq_false_iff_not]
    omega
  have isHigh : isHighSurrogate (0xD800 + n / 0x400) = true := by
    simp only [isHighSurrogate, Bool.and_eq_true, decide_eq_true_eq]
    omega
  have isLow : isLowSurrogate (0xDC00 + n % 0x400) = true := by
    simp only [isLowSurrogate, Bool.and_eq_true, decide_eq_true_eq]
    omega
  have value : 0x10000 + (0xD800 + n / 0x400 - 0xD800) * 0x400 + (0xDC00 + n % 0x400 - 0xDC00) = c.toNat := by
    omega
  rw [escape]
  simp only [readCodePoint, high, low, notLow, isHigh, isLow, value, Char.ofNat_toNat]
  rfl

/-- However a character is spelled, it is read in one step. -/
theorem readTextIn_spellsChar (char : SpellsChar c spelled) (reading : readTextIn fuel cs = .ok (l, rest)) :
    readTextIn (fuel + 1) (spelled ++ cs) = .ok (c :: l, rest) := by
  have escaped {e : List Char} (escape : readEscape e = .ok (c, cs)) :
      readTextIn (fuel + 1) ('\\' :: e) = .ok (c :: l, rest) := by
    rw [readTextIn_escape escape, reading]
    rfl
  cases char with
  | plain noQuote noSlash printable =>
    simp only [List.cons_append, List.nil_append, readTextIn, if_neg noQuote, if_neg noSlash,
      if_neg (Nat.not_lt.mpr printable), reading, bind, Except.bind, pure, Except.pure]
  | @letter e escape =>
    refine escaped (e := e :: cs) ?_
    rw [readEscape, shortEscape?_letters _ escape]
  | code number => exact escaped (readEscape_code number cs)
  | @pair _ high low beyond first second =>
    have text : '\\' :: 'u' :: high ++ '\\' :: 'u' :: low ++ cs =
        '\\' :: 'u' :: (high ++ '\\' :: 'u' :: (low ++ cs)) := by simp
    rw [text]
    exact escaped (readEscape_pair beyond first second cs)

theorem SpellsChar.length_pos (char : SpellsChar c spelled) : 0 < spelled.length := by
  cases char <;> exact Nat.succ_pos _

theorem SpellsText.length_le (text : SpellsText l spelled) : l.length ≤ spelled.length := by
  induction text with
  | nil => exact Nat.le_refl 0
  | cons char _ ih =>
    have one := char.length_pos
    rw [List.length_append, List.length_cons]
    omega

theorem readTextIn_spellsText (text : SpellsText l spelled) (enough : l.length < fuel) (rest : List Char) :
    readTextIn fuel (spelled ++ '"' :: rest) = .ok (l, rest) := by
  induction text generalizing fuel with
  | nil =>
    cases fuel with
    | zero => cases enough
    | succ fuel => rfl
  | cons char _ ih =>
    cases fuel with
    | zero => cases enough
    | succ fuel =>
      rw [List.append_assoc]
      exact readTextIn_spellsChar char (ih (Nat.lt_of_succ_lt_succ enough))

/-- However a text is spelled, it is read as itself. -/
theorem readText_spellsText (text : SpellsText l spelled) (rest : List Char) :
    readText (spelled ++ '"' :: rest) = .ok (String.ofList l, rest) := by
  have enough : l.length < (spelled ++ '"' :: rest).length + 1 := by
    have shorter := text.length_le
    rw [List.length_append]
    omega
  simp only [readText, readTextIn_spellsText text enough, bind, Except.bind, pure, Except.pure]

/-! ### Blanks -/

theorem blank_nil : Blank [] := nofun

theorem skipSpace_append_of_blank (empty : Blank blank) (rest : List Char) :
    skipSpace (blank ++ rest) = skipSpace rest :=
  List.dropWhile_append_of_pos empty

theorem skipSpace_skipSpace (cs : List Char) : skipSpace (skipSpace cs) = skipSpace cs :=
  List.dropWhile_idempotent isSpace cs

theorem skipSpace_cons_of_not (mark : isSpace c = false) (cs : List Char) : skipSpace (c :: cs) = c :: cs :=
  List.dropWhile_cons_of_neg (by simp [mark])

/-- Blanks in front of a text that does not end with them are the blanks in front of the whole. -/
theorem skipSpace_append_of_begins (begins : Begins (skipSpace text)) (rest : List Char) :
    skipSpace (text ++ rest) = skipSpace text ++ rest := by
  induction text with
  | nil =>
    obtain ⟨_, _, none, _⟩ := begins
    cases none
  | cons c text ih =>
    cases mark : isSpace c with
    | false => rw [List.cons_append, skipSpace_cons_of_not mark, skipSpace_cons_of_not mark, List.cons_append]
    | true =>
      have drop (cs : List Char) : skipSpace (c :: cs) = skipSpace cs := List.dropWhile_cons_of_pos mark
      rw [drop] at begins
      rw [List.cons_append, drop, drop, ih begins]

theorem nextItem_congr (same : skipSpace cs = skipSpace cs') (first : Bool) :
    nextItem first cs = nextItem first cs' := by
  unfold nextItem
  rw [same]

theorem nextKey_congr (same : skipSpace cs = skipSpace cs') (first : Bool) : nextKey first cs = nextKey first cs' := by
  unfold nextKey
  rw [same]

theorem readItems_congr (same : skipSpace cs = skipSpace cs') (fuel : Nat) (first : Bool) :
    readItems read fuel first cs = readItems read fuel first cs' := by
  cases fuel with
  | zero => rfl
  | succ fuel => rw [readItems, readItems, nextItem_congr same]

theorem readEntries_congr (same : skipSpace cs = skipSpace cs') (fuel : Nat) (first : Bool) (entries : Fields) :
    readEntries read fuel first entries cs = readEntries read fuel first entries cs' := by
  cases fuel with
  | zero => rfl
  | succ fuel => rw [readEntries, readEntries, nextKey_congr same]

/-! ### Integers -/

/-- A number ends before a blank, too. -/
theorem numberEnds_of_skipSpace (ends : Delimited (skipSpace rest)) : NumberEnds rest := by
  cases rest with
  | nil => exact Delimited.numberEnds trivial
  | cons c rest =>
    cases mark : isSpace c with
    | false =>
      rw [skipSpace_cons_of_not mark] at ends
      exact ends.numberEnds
    | true =>
      simp only [isSpace, Bool.or_eq_true, decide_eq_true_eq] at mark
      rcases mark with ((rfl | rfl) | rfl) | rfl <;> exact ⟨rfl, fun _ _ => rfl⟩

theorem readDocument_int {k : Int} (least : leastInt ≤ k) (greatest : k ≤ greatestInt) (inner : Inner)
    (ends : Delimited (skipSpace rest)) : readDocument inner (signedDecimal k ++ rest) = .ok (.int k, rest) := by
  obtain ⟨negative, body, written, reads⟩ := readNumber_int least greatest
  rw [written, List.append_assoc, readDocument_signed (reads rest (numberEnds_of_skipSpace ends))]
  rfl

/-! ### Parts -/

/-- A reader reads a value from a spelling up to the blanks behind it. -/
def ReadsSpelled (read : List Char → Read Json) (j : Json) (text : List Char) : Prop :=
  ∀ rest, Delimited (skipSpace rest) →
    ∃ rest', read (text ++ rest) = .ok (j, rest') ∧ skipSpace rest' = skipSpace rest

/-- What follows the parts of an array or object. -/
theorem skipSpace_partsFrom (closing : c = ']' ∨ c = '\x7d') (parts : List (List Char)) (rest : List Char) :
    skipSpace (partsFrom false parts ++ c :: rest) = partsFrom false parts ++ c :: rest ∧
      Delimited (partsFrom false parts ++ c :: rest) := by
  cases parts with
  | nil => rcases closing with rfl | rfl <;> exact ⟨rfl, by simp [partsFrom, Delimited]⟩
  | cons part parts => exact ⟨rfl, .inl rfl⟩

/-- Every part but the first one has a comma before it. -/
theorem length_le_partsFrom (first : Bool) (parts : List (List Char)) :
    parts.length ≤ (partsFrom first parts).length + 1 := by
  have commas : parts.length ≤ (partsFrom false parts).length := by
    induction parts with
    | nil => exact Nat.le_refl 0
    | cons part parts ih =>
      simp only [partsFrom, comma, Bool.false_eq_true, if_false, List.length_append, List.length_cons]
      omega
  cases first with
  | false => omega
  | true =>
    cases parts with
    | nil => exact Nat.zero_le _
    | cons part parts =>
      simp only [partsFrom, comma, Bool.false_eq_true, if_false, if_true, List.length_append, List.length_cons,
        List.length_nil] at commas ⊢
      omega

theorem nextItem_part (begins : Begins (skipSpace part)) (first : Bool) (rest : List Char) :
    nextItem first (comma first ++ (part ++ rest)) = .ok (true, skipSpace part ++ rest) := by
  have space := skipSpace_append_of_begins begins rest
  obtain ⟨c, tail, text, mark, bracket⟩ := begins
  rw [text] at space ⊢
  cases first with
  | true =>
    have same : skipSpace (comma true ++ (part ++ rest)) = skipSpace (c :: tail ++ rest) := by
      rw [comma, if_pos rfl, List.nil_append, space, List.cons_append, skipSpace_cons_of_not mark]
    rw [nextItem_congr same]
    exact nextItem_first ⟨c, tail ++ rest, rfl, mark, bracket⟩
  | false =>
    have behind : skipSpace (',' :: (part ++ rest)) = ',' :: (part ++ rest) := rfl
    simp [comma, nextItem, behind, space, bracket]

/-- The items of an array are read, however they are spelled. -/
theorem readItems_spelled {parts : List (Json × List Char)} (trims : ∀ cs, read (skipSpace cs) = read cs)
    (reads : ∀ p ∈ parts, ReadsSpelled read p.1 p.2) (begins : ∀ p ∈ parts, Begins (skipSpace p.2))
    (enough : parts.length < fuel) (first : Bool) (rest : List Char) :
    readItems read fuel first (partsFrom first (parts.map (·.2)) ++ ']' :: rest) = .ok (parts.map (·.1), rest) := by
  induction parts generalizing fuel first with
  | nil =>
    cases fuel with
    | zero => cases enough
    | succ fuel => cases first <;> rfl
  | cons p parts ih =>
    cases fuel with
    | zero => cases enough
    | succ fuel =>
      rw [List.forall_mem_cons] at reads begins
      obtain ⟨front, delimited⟩ := skipSpace_partsFrom (.inl rfl) (parts.map (·.2)) rest
      obtain ⟨rest', reading, space⟩ := reads.1 _ (front.symm ▸ delimited)
      have here : read (skipSpace p.2 ++ (partsFrom false (parts.map (·.2)) ++ ']' :: rest)) = .ok (p.1, rest') := by
        rw [← skipSpace_append_of_begins begins.1, trims, reading]
      have others := ih reads.2 begins.2 (Nat.lt_of_succ_lt_succ enough) false
      rw [← readItems_congr space] at others
      simp only [List.map_cons, partsFrom, List.append_assoc, readItems, nextItem_part begins.1, here, others, bind,
        Except.bind, pure, Except.pure, if_true]

theorem nextKey_named {f : FieldSpelling} {before behind : List Char}
    (name : f.name = before ++ '"' :: (spelled ++ '"' :: behind)) (front : Blank before) (first : Bool)
    (rest : List Char) :
    nextKey first (comma first ++ (f.written ++ rest)) =
      .ok (true, spelled ++ '"' :: (behind ++ ':' :: (f.text ++ rest))) := by
  have text : f.written ++ rest = before ++ '"' :: (spelled ++ '"' :: (behind ++ ':' :: (f.text ++ rest))) := by
    simp [FieldSpelling.written, name]
  have space := skipSpace_append_of_blank front ('"' :: (spelled ++ '"' :: (behind ++ ':' :: (f.text ++ rest))))
  rw [skipSpace_cons_of_not rfl] at space
  rw [text]
  cases first with
  | true => simp [comma, nextKey, space]
  | false =>
    have mark (cs : List Char) : skipSpace (',' :: cs) = ',' :: cs := rfl
    simp [comma, nextKey, mark, space]

theorem readColon_blank (empty : Blank blank) (cs : List Char) : readColon (blank ++ ':' :: cs) = .ok cs := by
  have space : skipSpace (blank ++ ':' :: cs) = ':' :: cs := by
    rw [skipSpace_append_of_blank empty, skipSpace_cons_of_not rfl]
  rw [readColon, space]
  rfl

/-- The fields of an object are read onto those that are read already, however they are spelled. -/
theorem readEntries_spelled {parts : List FieldSpelling} (named : ∀ p ∈ parts, p.Named)
    (reads : ∀ p ∈ parts, ReadsSpelled read p.value p.text) (enough : parts.length < fuel) (first : Bool)
    (entries : Fields) (rest : List Char) :
    readEntries read fuel first entries (partsFrom first (parts.map (·.written)) ++ '\x7d' :: rest) =
      .ok (Assoc.extend entries (parts.map (·.entry)), rest) := by
  induction parts generalizing fuel first entries with
  | nil =>
    cases fuel with
    | zero => cases enough
    | succ fuel => cases first <;> rfl
  | cons p parts ih =>
    cases fuel with
    | zero => cases enough
    | succ fuel =>
      rw [List.forall_mem_cons] at named reads
      obtain ⟨before, spelled, behind, name, front, back, key⟩ := named.1
      obtain ⟨space, delimited⟩ := skipSpace_partsFrom (.inr rfl) (parts.map (·.written)) rest
      obtain ⟨rest', reading, same⟩ := reads.1 _ (space.symm ▸ delimited)
      have others := ih named.2 reads.2 (Nat.lt_of_succ_lt_succ enough) false (Assoc.insert p.key p.value entries)
      rw [← readEntries_congr same] at others
      simp only [List.map_cons, partsFrom, List.append_assoc, readEntries, nextKey_named name front,
        readText_spellsText key, String.ofList_toList, readColon_blank back, reading, others, bind, Except.bind,
        if_true]
      rfl

/-! ### Values -/

/-- The spelling of a value begins, behind blanks, with a character of the value. -/
theorem Spells.begins (spelled : Spells depth j text) : Begins (skipSpace text) := by
  induction spelled with
  | null => exact ⟨'n', _, rfl, rfl, by decide⟩
  | bool _ b => cases b <;> exact ⟨_, _, rfl, rfl, by decide⟩
  | @int _ n least greatest =>
    have begins : Begins (signedDecimal n) := begins_number (n := .int n) ⟨least, greatest⟩
    rwa [skipSpace_of_begins begins]
  | str => exact ⟨'"', _, rfl, rfl, by decide⟩
  | arr => exact ⟨'[', _, rfl, rfl, by decide⟩
  | obj => exact ⟨'\x7b', _, rfl, rfl, by decide⟩
  | @padded _ _ _ text behind front _ _ ih =>
    rw [skipSpace_append_of_blank front, skipSpace_append_of_begins ih]
    exact ih.append behind

theorem readValue_skipSpace (depth : Nat) (cs : List Char) :
    readValue depth .document (skipSpace cs) = readValue depth .document cs := by
  rw [readValue_document, readValue_document, skipSpace_skipSpace]

/-- However a value is spelled, it is read, inside of any other one. -/
theorem readValue_of_spells (spelled : Spells depth j text) : ReadsSpelled (readValue depth .document) j text := by
  induction spelled with
  | null =>
    intro rest _
    exact ⟨rest, by rw [readValue_document]; rfl, rfl⟩
  | bool _ b =>
    intro rest _
    cases b <;> exact ⟨rest, by rw [readValue_document]; rfl, rfl⟩
  | @int depth n least greatest =>
    intro rest ends
    have begins : Begins (signedDecimal n) := begins_number (n := .int n) ⟨least, greatest⟩
    refine ⟨rest, ?_, rfl⟩
    rw [readValue_document, skipSpace_of_begins (begins.append rest), readDocument_int least greatest _ ends]
  | @str depth s spelled quoted =>
    intro rest _
    refine ⟨rest, ?_, rfl⟩
    have text : '"' :: (spelled ++ ['"']) ++ rest = '"' :: (spelled ++ '"' :: rest) := by simp
    have begins (cs : List Char) : readDocument (innerOf depth) ('"' :: cs) =
        readText cs >>= fun r => .ok (.str r.1, r.2) := rfl
    rw [readValue_document, text, skipSpace_cons_of_not rfl, begins, readText_spellsText quoted, String.ofList_toList]
    rfl
  | @arr depth parts blank empty inside ih =>
    intro rest _
    refine ⟨rest, ?_, rfl⟩
    have text : '[' :: (blank ++ (partsFrom true (parts.map (·.2)) ++ [']'])) ++ rest =
        '[' :: (blank ++ (partsFrom true (parts.map (·.2)) ++ ']' :: rest)) := by simp
    have begins (cs : List Char) : readDocument (innerOf (depth + 1)) ('[' :: cs) =
        readItems (readValue depth .document) (cs.length + 1) true cs >>= fun r => .ok (.arr r.1, r.2) := rfl
    have enough : parts.length < (blank ++ (partsFrom true (parts.map (·.2)) ++ ']' :: rest)).length + 1 := by
      have commas := length_le_partsFrom true (parts.map (·.2))
      simp only [List.length_append, List.length_cons, List.length_map] at commas ⊢
      omega
    rw [readValue_document, text, skipSpace_cons_of_not rfl, begins,
      readItems_congr (skipSpace_append_of_blank empty _),
      readItems_spelled (readValue_skipSpace depth) ih (fun p member => (inside p member).begins) enough]
    rfl
  | @obj depth parts blank empty named inside ih =>
    intro rest _
    refine ⟨rest, ?_, rfl⟩
    have text : '\x7b' :: (blank ++ (partsFrom true (parts.map (·.written)) ++ ['\x7d'])) ++ rest =
        '\x7b' :: (blank ++ (partsFrom true (parts.map (·.written)) ++ '\x7d' :: rest)) := by simp
    have begins (cs : List Char) : readDocument (innerOf (depth + 1)) ('\x7b' :: cs) =
        readEntries (readValue depth .document) (cs.length + 1) true [] cs >>= fun r => .ok (.obj r.1, r.2) := rfl
    have enough : parts.length < (blank ++ (partsFrom true (parts.map (·.written)) ++ '\x7d' :: rest)).length + 1 := by
      have commas := length_le_partsFrom true (parts.map (·.written))
      simp only [List.length_append, List.length_cons, List.length_map] at commas ⊢
      omega
    rw [readValue_document, text, skipSpace_cons_of_not rfl, begins,
      readEntries_congr (skipSpace_append_of_blank empty _), readEntries_spelled named ih enough]
    rfl
  | @padded depth j before text behind front _ back ih =>
    intro rest delimited
    have space : skipSpace (behind ++ rest) = skipSpace rest := skipSpace_append_of_blank back rest
    obtain ⟨rest', reading, same⟩ := ih (behind ++ rest) (space.symm ▸ delimited)
    refine ⟨rest', ?_, same.trans space⟩
    rw [List.append_assoc, List.append_assoc, readValue_document, skipSpace_append_of_blank front, ← readValue_document,
      reading]

/-- However a value is spelled, a text of it is read as the value. -/
theorem parse_of_spells {text : String} (spelled : Spells depth j text.toList) (shallow : depth ≤ depthLimit) :
    parse text = .ok j := by
  obtain ⟨rest, reading, same⟩ := readValue_of_spells (spelled.mono shallow) [] trivial
  rw [List.append_nil] at reading
  have ended : endText rest = .ok () := by
    rw [endText, same]
    rfl
  simp only [parse, Json.read, reading, ended, bind, Except.bind, pure, Except.pure]

/-! ### Documents as they are printed -/

theorem spellsChar_escapeChar (c : Char) : SpellsChar c (escapeChar c) := by
  have letter {d e : Char} (escape : (e, d) ∈ escapeLetters) (same : c.toNat = d.toNat) : SpellsChar c ['\\', e] := by
    rw [show c = d from Char.toNat_inj.mp same]
    exact .letter escape
  unfold escapeChar
  split_ifs with quote slash back feed line return_ tab control
  · exact letter (d := '"') (by decide) (congrArg Char.toNat quote)
  · exact letter (d := '\\') (by decide) (congrArg Char.toNat slash)
  · exact letter (d := Char.ofNat 0x8) (by decide) back
  · exact letter (d := Char.ofNat 0xC) (by decide) feed
  · exact letter (d := '\n') (by decide) (congrArg Char.toNat line)
  · exact letter (d := '\r') (by decide) (congrArg Char.toNat return_)
  · exact letter (d := '\t') (by decide) (congrArg Char.toNat tab)
  · exact .code (hex4?_padded c.toNat control)
  · exact .plain quote slash (Nat.le_of_not_lt control)

theorem spellsText_escaped (l : List Char) : SpellsText l (l.flatMap escapeChar) := by
  induction l with
  | nil => exact .nil
  | cons c l ih => exact .cons (spellsChar_escapeChar c) ih

theorem partsFrom_write (first : Bool) (items : List Json) :
    partsFrom first (items.map write) = itemsFrom first items := by
  induction items generalizing first with
  | nil => cases first <;> rfl
  | cons j items ih => rw [List.map_cons, partsFrom, ih, itemsFrom_cons]

/-- A field as it is printed. -/
def FieldSpelling.printed (f : String × Json) : FieldSpelling :=
  ⟨f.1, writeText f.1.toList, f.2, f.2.write⟩

theorem FieldSpelling.named_printed (f : String × Json) : (printed f).Named :=
  ⟨[], f.1.toList.flatMap escapeChar, [], rfl, blank_nil, blank_nil, spellsText_escaped _⟩

theorem partsFrom_writeField (first : Bool) (fields : Fields) :
    partsFrom first (fields.map writeField) = fieldsFrom first fields := by
  induction fields generalizing first with
  | nil => cases first <;> rfl
  | cons f fields ih => rw [List.map_cons, partsFrom, ih, fieldsFrom_cons]

/-- What a document without floating-point numbers is printed as is a spelling of it. -/
theorem spells_write (document : IsDocument depth j) (exact_ : Exact j) : Spells depth j j.write := by
  induction document with
  | null depth => exact .null depth
  | bool depth b => cases b <;> exact .bool depth _
  | num depth number =>
    cases exact_ with
    | int n => exact .int depth number.1 number.2
  | str depth s =>
    have text : (Json.str s).write = '"' :: (s.toList.flatMap escapeChar ++ ['"']) := by simp [write, writeText]
    rw [text]
    exact .str depth (spellsText_escaped _)
  | @arr depth items _ ih =>
    cases exact_ with
    | arr exact_ =>
      have inside : ∀ p ∈ items.map (fun j => (j, j.write)), Spells depth p.1 p.2 := by
        rw [List.forall_mem_map]
        exact fun j member => ih j member (exact_ j member)
      have spelled := Spells.arr blank_nil inside
      simp only [List.map_map, Function.comp_def, List.map_id', List.nil_append] at spelled
      rw [partsFrom_write] at spelled
      simpa [write, itemsFrom] using spelled
  | @obj depth fields _ ih =>
    cases exact_ with
    | obj distinct exact_ =>
      have named : ∀ p ∈ fields.map FieldSpelling.printed, p.Named := by
        rw [List.forall_mem_map]
        exact fun f _ => FieldSpelling.named_printed f
      have inside : ∀ p ∈ fields.map FieldSpelling.printed, Spells depth p.value p.text := by
        rw [List.forall_mem_map]
        exact fun f member => ih f member (exact_ f member)
      have spelled := Spells.obj blank_nil named inside
      have entries : fields.map (FieldSpelling.entry ∘ FieldSpelling.printed) = fields := List.map_id fields
      have texts : fields.map (FieldSpelling.written ∘ FieldSpelling.printed) = fields.map writeField := rfl
      rw [List.map_map, List.map_map, entries, texts, partsFrom_writeField, List.nil_append,
        Assoc.extend_new (by simp [Assoc.keys]) distinct, List.nil_append] at spelled
      simpa [write, fieldsFrom] using spelled

end DeviceTwin.Json
