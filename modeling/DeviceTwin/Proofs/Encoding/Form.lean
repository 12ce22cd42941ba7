import DeviceTwin.Proofs.Encoding.Percent
import DeviceTwin.Proofs.Text.Lenient

/-!
Form-urlencoding back and forth. The form of a text is read as the text (`decodeForm_encodeForm`), and has nothing in it
that separates fields. A text that is put into a form as it is, is read as itself exactly if there is no plus sign in
it and no percent sign with two digits (`decodeForm_eq_iff`).
-/
namespace DeviceTwin.Percent
open DeviceTwin.Text

variable {a b c : Char} {l rest : List Char}

/-- A plus sign in a form is a space. -/
def formSpace (c : Char) : Char :=
  if c = '+' then ' ' else c

/-- The text that a form holds. -/
def decodeForm (l : List Char) : String :=
  ofUtf8Lossy (decode ((l.map formSpace).flatMap utf8))

theorem formSpace_of_ne (other : c ≠ '+') : formSpace c = c := if_neg other

theorem formSpace_eq_self : formSpace c = c ↔ c ≠ '+' := by
  refine ⟨?_, formSpace_of_ne⟩
  rintro same rfl
  cases same

theorem map_formSpace_eq_self : l.map formSpace = l ↔ '+' ∉ l := by
  induction l with
  | nil => simp
  | cons c l ih => rw [List.map_cons, List.cons.injEq, formSpace_eq_self, ih, List.mem_cons, not_or, ne_comm]

/-! ### Forms of texts -/

/-- What stands in a form: plus signs, percent signs, and what stands for itself. -/
theorem of_mem_encodeForm (member : c ∈ encodeForm l) : c = '+' ∨ c = '%' ∨ isFormSafe c = true := by
  obtain ⟨d, _, here⟩ := List.mem_flatMap.mp member
  unfold encodeFormChar at here
  split at here
  · exact .inl (List.mem_singleton.mp here)
  split at here
  · rename_i safe
    rw [List.mem_singleton.mp here]
    exact .inr (.inr safe)
  · have safe : ∀ n < 16, isFormSafe (upperDigitChar n) = true := by decide +kernel
    rcases of_mem_encodeBytes here with percent | ⟨n, small, digit⟩
    · exact .inr (.inl percent)
    · exact .inr (.inr (digit ▸ safe n small))

/-- What separates fields or lines does not stand in a form. -/
theorem not_mem_encodeForm (foreign : c ≠ '+' ∧ c ≠ '%' ∧ isFormSafe c = false) (l : List Char) : c ∉ encodeForm l := by
  obtain ⟨noPlus, noPercent, kept⟩ := foreign
  intro member
  rcases of_mem_encodeForm member with plus | percent | safe
  · exact noPlus plus
  · exact noPercent percent
  · rw [kept] at safe
    cases safe

theorem map_formSpace_encodeBytes (bytes : List UInt8) :
    (bytes.flatMap encodeByte).map formSpace = bytes.flatMap encodeByte := by
  rw [map_formSpace_eq_self]
  intro plus
  have other : ∀ n < 16, '+' ≠ upperDigitChar n := by decide +kernel
  rcases of_mem_encodeBytes plus with percent | ⟨n, small, digit⟩
  · cases percent
  · exact other n small digit

theorem decode_encodeFormChar (c : Char) (rest : List UInt8) :
    decode (((encodeFormChar c).map formSpace).flatMap utf8 ++ rest) = utf8 c ++ decode rest := by
  unfold encodeFormChar
  split
  · rename_i space
    rw [space]
    exact decode_append (utf8_ne_percent (c := ' ') (by decide)) rest
  split
  · rename_i safe
    have other : ∀ d, isFormSafe d = false → c ≠ d := by
      rintro d foreign rfl
      rw [safe] at foreign
      cases foreign
    rw [List.map_singleton, formSpace_of_ne (other '+' rfl), List.flatMap_singleton]
    exact decode_append (utf8_ne_percent (other '%' rfl)) rest
  · rw [map_formSpace_encodeBytes]
    exact decode_encodeBytes (utf8 c) rest

/-- The form of a text is read as the text. -/
theorem decodeForm_encodeForm (l : List Char) : decodeForm (encodeForm l) = String.ofList l := by
  have bytes : decode (((encodeForm l).map formSpace).flatMap utf8) = l.flatMap utf8 := by
    induction l with
    | nil => rfl
    | cons c l ih =>
      rw [encodeForm, List.flatMap_cons, ← encodeForm, List.map_append, List.flatMap_append, decode_encodeFormChar, ih,
        List.flatMap_cons]
  rw [decodeForm, bytes, ofUtf8Lossy_flatMap]

/-- No two texts have the same form. -/
theorem encodeForm_injective : Function.Injective encodeForm := by
  intro l l' same
  have text := decodeForm_encodeForm l
  rw [same, decodeForm_encodeForm] at text
  exact (String.ofList_injective text).symm

/-! ### Texts in forms -/

/-- Two hexadecimal digits come first. -/
def StartsWithByte (l : List Char) : Prop :=
  ∃ a b rest, l = a :: b :: rest ∧ (hexDigit? a).isSome ∧ (hexDigit? b).isSome

/-- Somewhere two hexadecimal digits follow a percent sign. -/
inductive HasEscape : List Char → Prop where
  | here {l : List Char} (byte : StartsWithByte l) : HasEscape ('%' :: l)
  | later {c : Char} {l : List Char} (there : HasEscape l) : HasEscape (c :: l)

theorem HasEscape.percent_mem (there : HasEscape l) : '%' ∈ l := by
  induction there with
  | here => exact List.mem_cons_self
  | later _ ih => exact List.mem_cons_of_mem _ ih

theorem toNat_of_hexDigit? (digit : (hexDigit? c).isSome) : c.toNat < 0x80 := by
  unfold hexDigit? at digit
  split_ifs at digit with decimal lower upper
  · exact Nat.lt_of_le_of_lt (show c.toNat ≤ '9'.toNat from decimal.2) (by decide)
  · exact Nat.lt_of_le_of_lt (show c.toNat ≤ 'f'.toNat from lower.2) (by decide)
  · exact Nat.lt_of_le_of_lt (show c.toNat ≤ 'F'.toNat from upper.2) (by decide)
  · cases digit

theorem ne_plus_of_hexDigit? (digit : (hexDigit? c).isSome) : c ≠ '+' := by
  rintro rfl
  cases digit

/-- A digit is one byte. -/
theorem utf8_of_hexDigit? (digit : (hexDigit? c).isSome) :
    utf8 c = [c.toNat.toUInt8] ∧ Char.ofNat c.toNat.toUInt8.toNat = c := by
  have small := toNat_of_hexDigit? digit
  exact ⟨by rw [utf8, if_pos small], by rw [toNat_toUInt8 (by omega), c.ofNat_toNat]⟩

/-- A byte that looks like a digit is one. -/
theorem of_flatMap_utf8 {x : UInt8} {more : List UInt8} (bytes : l.flatMap utf8 = x :: more)
    (digit : (hexDigit? (Char.ofNat x.toNat)).isSome) :
    ∃ l', l = Char.ofNat x.toNat :: l' ∧ l'.flatMap utf8 = more := by
  have range := x.toNat_lt
  have small := toNat_of_hexDigit? digit
  rw [toNat_ofNat (.inl (by omega))] at small
  cases l with
  | nil => cases bytes
  | cons c l =>
    obtain ⟨x', tail, front, piece⟩ := utf8Piece_utf8 c (l.flatMap utf8)
    rw [List.flatMap_cons, front, List.cons_append] at bytes
    obtain ⟨same, behind⟩ := List.cons.inj bytes
    rw [same, behind, utf8Piece, if_pos small] at piece
    cases piece
    exact ⟨l, rfl, rfl⟩

theorem decode_percent (plain : ¬ StartsWithByte l) :
    decode (37 :: l.flatMap utf8) = 37 :: decode (l.flatMap utf8) := by
  cases bytes : l.flatMap utf8 with
  | nil => rfl
  | cons x more =>
    cases more with
    | nil => rfl
    | cons y more =>
      rw [decode, if_pos rfl]
      split
      · rename_i m n high low
        have first : (hexDigit? (Char.ofNat x.toNat)).isSome := Option.isSome_of_eq_some high
        have second : (hexDigit? (Char.ofNat y.toNat)).isSome := Option.isSome_of_eq_some low
        obtain ⟨behind, rfl, bytes'⟩ := of_flatMap_utf8 bytes first
        obtain ⟨rest, rfl, _⟩ := of_flatMap_utf8 bytes' second
        exact absurd ⟨_, _, rest, rfl, first, second⟩ plain
      · rfl

theorem decode_byte (high : (hexDigit? a).isSome) (low : (hexDigit? b).isSome) (rest : List Char) :
    ∃ x, decode (37 :: (a :: b :: rest).flatMap utf8) = x :: decode (rest.flatMap utf8) := by
  obtain ⟨m, first⟩ := Option.isSome_iff_exists.mp high
  obtain ⟨n, second⟩ := Option.isSome_iff_exists.mp low
  obtain ⟨bytes, back⟩ := utf8_of_hexDigit? high
  obtain ⟨bytes', back'⟩ := utf8_of_hexDigit? low
  refine ⟨(m * 16 + n).toUInt8, ?_⟩
  rw [List.flatMap_cons, List.flatMap_cons, bytes, bytes']
  simp only [List.cons_append, List.nil_append, decode, if_true, back, back', first, second]

/-- A text without escapes is not changed. -/
theorem decode_of_plain (plain : ¬ HasEscape l) : decode (l.flatMap utf8) = l.flatMap utf8 := by
  induction l with
  | nil => rfl
  | cons c l ih =>
    have same := ih fun there => plain (.later there)
    by_cases percent : c = '%'
    · subst percent
      have bytes : utf8 '%' = [37] := rfl
      rw [List.flatMap_cons, bytes, List.singleton_append, decode_percent fun byte => plain (.here byte), same]
    · rw [List.flatMap_cons, decode_append (utf8_ne_percent percent), same]

/-- There are no more pieces than there were characters, and fewer where there was an escape. -/
theorem length_decode (l : List Char) :
    (utf8Pieces (decode (l.flatMap utf8))).length ≤ l.length ∧
      (HasEscape l → (utf8Pieces (decode (l.flatMap utf8))).length < l.length) := by
  induction length : l.length using Nat.strongRecOn generalizing l with
  | ind n ih =>
    subst length
    cases l with
    | nil => exact ⟨Nat.le_refl _, fun there => by cases there⟩
    | cons c l =>
      obtain ⟨atMost, fewer⟩ := ih l.length (Nat.lt_succ_self _) l rfl
      rw [List.length_cons]
      by_cases escape : c = '%' ∧ StartsWithByte l
      · obtain ⟨rfl, a, b, rest, rfl, high, low⟩ := escape
        have bytes : utf8 '%' = [37] := rfl
        obtain ⟨x, decoded⟩ := decode_byte high low rest
        obtain ⟨atMost, _⟩ := ih rest.length (by simp only [List.length_cons]; omega) rest rfl
        have more := length_utf8Pieces_cons_le x (decode (rest.flatMap utf8))
        rw [List.flatMap_cons, bytes, List.singleton_append, decoded]
        simp only [List.length_cons]
        exact ⟨by omega, fun _ => by omega⟩
      · have first : decode ((c :: l).flatMap utf8) = utf8 c ++ decode (l.flatMap utf8) := by
          by_cases percent : c = '%'
          · subst percent
            exact decode_percent fun byte => escape ⟨rfl, byte⟩
          · exact decode_append (utf8_ne_percent percent) _
        rw [first, utf8Pieces_utf8, List.length_cons]
        refine ⟨by omega, fun there => ?_⟩
        cases there with
        | here byte => exact absurd ⟨rfl, byte⟩ escape
        | later there => exact Nat.succ_lt_succ (fewer there)

theorem HasEscape.map_formSpace (there : HasEscape l) : HasEscape (l.map formSpace) := by
  induction there with
  | here byte =>
    obtain ⟨a, b, rest, rfl, high, low⟩ := byte
    refine .here ⟨a, b, rest.map formSpace, ?_, high, low⟩
    rw [List.map_cons, List.map_cons, formSpace_of_ne (ne_plus_of_hexDigit? high),
      formSpace_of_ne (ne_plus_of_hexDigit? low)]
  | later _ ih => exact .later ih

/-- A text that is put into a form as it is, is read as itself exactly if there is no plus sign and no escape in it. -/
theorem decodeForm_eq_iff (l : List Char) : decodeForm l = String.ofList l ↔ '+' ∉ l ∧ ¬ HasEscape l := by
  constructor
  · intro same
    have plain : ¬ HasEscape (l.map formSpace) := by
      intro there
      have fewer := (length_decode (l.map formSpace)).2 there
      have length := congrArg (·.toList.length) same
      simp only [decodeForm, length_ofUtf8Lossy, String.toList_ofList] at length
      rw [length, List.length_map] at fewer
      exact Nat.lt_irrefl _ fewer
    rw [decodeForm, decode_of_plain plain, ofUtf8Lossy_flatMap] at same
    exact ⟨map_formSpace_eq_self.mp (String.ofList_injective same), fun there => plain there.map_formSpace⟩
  · rintro ⟨noPlus, plain⟩
    rw [decodeForm, map_formSpace_eq_self.mpr noPlus, decode_of_plain plain, ofUtf8Lossy_flatMap]

end DeviceTwin.Percent
