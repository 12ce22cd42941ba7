import DeviceTwin.Proofs.Json.Conversion
import Mathlib.Data.List.TakeWhile

/-!
Natural numbers of 128 bits on their way through documents. A document holds integers of 64 bits. What is beyond them
is refused by the compact serializer (`Serializer.toWire_compact_large`), and is a floating-point number in what the
verbose one has written (`Serializer.toWire_verbose_large`), which is no natural number any more
(`Serializer.ofWire_wide_double`).
-/
namespace DeviceTwin.Json
open DeviceTwin.Number DeviceTwin.Text

variable {cs rest : List Char} {j : Json} {n : Nat} {x : Binary}

/-! ### Numbers beyond the mantissa -/

/-- Of the digits of a number that is too long for a mantissa, those that are left count as powers of ten. -/
theorem readNumber_long (large : mantissaLimit < n) (delimited : Delimited rest) (negative : Bool) :
    ∃ s t, readNumber negative (decimal n ++ rest) = ofParts negative s (t : Nat) rest ∧
      s ≤ mantissaLimit ∧ s * 10 ^ t ≤ n := by
  have value : ofDecimalFrom 0 (decimal n) = n := by rw [ofDecimalFrom_decimal, Nat.zero_mul, Nat.zero_add]
  obtain ⟨digits, zero | ⟨c, tail, numeral, leading⟩⟩ := numeral_decimal n
  · rw [zero] at value
    subst value
    cases large
  rw [numeral] at digits value ⊢
  obtain ⟨digit, digits⟩ := digits_cons.mp digits
  rw [ofDecimalFrom_cons, Nat.zero_mul, Nat.zero_add] at value
  obtain ⟨taken, left, rfl, taking, bounded, _⟩ :=
    takeDigits_digits digits delimited.ends mantissaLimit (c.toNat - 48)
  have small := bounded ((digit_le digit).trans (by decide))
  have left_ : Digits left := (digits_append.mp digits).2
  have some_ : left ≠ [] := by
    rintro rfl
    rw [List.append_nil] at value
    omega
  have starts : startsWithDigit (left ++ rest) = true := by
    rw [startsWithDigit_append left_ delimited.ends]
    simpa using some_
  refine ⟨ofDecimalFrom (c.toNat - 48) taken, left.length, ?_, small, ?_⟩
  · rw [List.cons_append, readNumber.eq_3 _ _ _ (fun zero => leading zero)]
    simp only [digit, if_true, taking, starts, takeWhile_digits left_ delimited.ends,
      dropWhile_digits left_ delimited.ends]
    rw [← delimited.afterDigits]
    cases rest with
    | nil => rfl
    | cons c rest => rcases delimited with rfl | rfl | rfl <;> rfl
  · rw [← value, ofDecimalFrom_append]
    exact le_ofDecimalFrom _ left

/-- A natural number of 128 bits that is too long for a mantissa is read as a floating-point number. -/
theorem readNumber_wide (large : mantissaLimit < n) (wide : n ≤ wideLimit) (delimited : Delimited rest) :
    ∃ y, readNumber false (decimal n ++ rest) = .ok (.double y, rest) := by
  obtain ⟨s, t, reading, small, share⟩ := readNumber_long large delimited false
  rw [reading]
  refine ofParts_of_isSome (isSome_ofDecimalParts false ?_ (Int.natCast_nonneg t) ?_) rest
  · unfold mantissaLimit at small
    omega
  · have below : s * 10 ^ t ≤ 2 ^ 128 := (share.trans wide).trans (by decide)
    have cast : (s : ℚ) * 10 ^ t ≤ 2 ^ 128 := by exact_mod_cast below
    calc (s : ℚ) * 10 ^ t ≤ 1 * 2 ^ 128 := by rwa [one_mul]
      _ ≤ (2 ^ 54 - 7) * 2 ^ 970 := by
          gcongr
          · norm_num
          · exact one_le_two
          · decide

theorem write_natural (n : Nat) : (Json.int n).write = decimal n := by
  have natural : ¬ (n : Int) < 0 := by omega
  simp [Json.int, write, Number.write, signedDecimal, natural]

/-- The text of such a number is that of a floating-point number. -/
theorem read_print_wide (large : mantissaLimit < n) (wide : n ≤ wideLimit) :
    ∃ y, Json.read .document (Json.int n).print = .ok (.num (.double y)) := by
  have ended : Delimited [] := trivial
  obtain ⟨y, reading⟩ := readNumber_wide large wide ended
  refine ⟨y, ?_⟩
  rw [List.append_nil] at reading
  rw [Json.read, print, String.toList_ofList, write_natural, readValue_document]
  obtain ⟨c, tail, numeral, digit⟩ := isDigit_of_readNumber reading
  have unsigned : c ≠ '-' := by
    rintro rfl
    revert digit
    decide
  rw [numeral] at reading ⊢
  rw [skipSpace_of_begins (begins_digit digit tail), readDocument_digit digit,
    readNumberAs.eq_2 _ _ _ _ (fun minus => unsigned minus), if_pos digit, reading]
  rfl

/-! ### Natural numbers and floating-point numbers -/

/-- A natural number is read of digits. -/
theorem digits_of_readWide (reading : readWide cs = .ok (j, rest)) : ∃ ds, Digits ds ∧ cs = ds ++ rest := by
  unfold readWide at reading
  split at reading
  · cases reading
  · cases reading
  · split at reading
    · cases reading
    · cases reading
      exact ⟨['0'], by simp [Digits], rfl⟩
  · split at reading
    · simp only at reading
      split at reading
      · cases reading
        exact ⟨_, fun c member => List.mem_takeWhile_imp member, List.takeWhile_append_dropWhile.symm⟩
      · cases reading
    · cases reading

/-- A text that is read as a natural number consists of digits and blanks. -/
theorem of_read_wide {text : String} (reading : Json.read .wide text = .ok j) :
    ∀ c ∈ text.toList, c.isDigit = true ∨ isSpace c = true := by
  have wide : readValue depthLimit .wide text.toList = readWide (skipSpace text.toList) := rfl
  rw [Json.read, wide] at reading
  cases taken : readWide (skipSpace text.toList) with
  | error e =>
    rw [taken] at reading
    cases reading
  | ok r =>
    obtain ⟨j', rest⟩ := r
    obtain ⟨ds, digits, split⟩ := digits_of_readWide taken
    have ended : skipSpace rest = [] := by
      by_contra more
      simp [taken, endText, more, bind, Except.bind] at reading
    have behind : ∀ c ∈ rest, isSpace c = true := List.dropWhile_eq_nil_iff.mp ended
    intro c member
    rw [← List.takeWhile_append_dropWhile (p := isSpace) (l := text.toList), List.mem_append] at member
    rcases member with blank | member
    · exact .inr (List.mem_takeWhile_imp blank)
    · rw [← skipSpace, split, List.mem_append] at member
      exact member.imp (digits c) (behind c)

/-- There is a point or an exponent in the text of a floating-point number. -/
theorem write_double (x : Binary) : ∃ c ∈ (Json.num (.double x)).write, c = '.' ∨ c = 'e' := by
  have point (l : List Char) (n : Nat) : '.' ∈ pointed l n := by
    unfold pointed
    split <;> simp
  rw [write, Number.write, Binary.write]
  by_cases zero : x.isZero = true
  · exact ⟨'.', by simp [zero], .inl rfl⟩
  have laid (l : List Char) (exponent : Int) : ∃ c ∈ numberLayout.write l exponent, c = '.' ∨ c = 'e' := by
    by_cases positional : numberLayout.least ≤ exponent + l.length - 1 ∧ exponent + l.length - 1 ≤ numberLayout.greatest
    · refine ⟨'.', ?_, .inl rfl⟩
      simp only [Layout.write, if_pos positional]
      split <;> exact point _ _
    · exact ⟨'e', by rw [write_scientific rfl positional]; simp, .inr rfl⟩
  obtain ⟨c, member, sign⟩ := laid (decimal (shortest double x).digits) (shortest double x).exponent
  exact ⟨c, by simp [zero, member], sign⟩

/-- A floating-point number is not read as a natural number. -/
theorem read_wide_double (x : Binary) : ∃ e, Json.read .wide (Json.num (.double x)).print = .error e := by
  cases reading : Json.read .wide (Json.num (.double x)).print with
  | error e => exact ⟨e, rfl⟩
  | ok j =>
    obtain ⟨c, member, sign⟩ := write_double x
    have plain := of_read_wide reading c (by rwa [print, String.toList_ofList])
    rcases sign with rfl | rfl <;> simp [isSpace] at plain

end DeviceTwin.Json

/-! ### Serializers -/

namespace DeviceTwin.Serializer
open DeviceTwin.Json
variable {s : Serializer} {n : Nat}

theorem isDocument_natural (small : (n : Int) ≤ greatestInt) : IsDocument depthLimit (.int n) := by
  refine .num depthLimit ⟨?_, small⟩
  unfold leastInt
  omega

theorem form_natural (s : Serializer) (n : Nat) : s.form (.int n) = .int n := s.form_num _

/-- A natural number of 64 bits is itself in a document. -/
theorem toWire_natural (small : (n : Int) ≤ greatestInt) : s.toWire (.value (.int n)) = .ok (.int n) := by
  rw [s.toWire_exact (isDocument_natural small) (.int n), form_natural]

/-- A natural number in a document is one of 128 bits. -/
theorem ofWire_wide_natural (small : (n : Int) ≤ greatestInt) : s.ofWire .wide (.int n) = .ok (.int n) := by
  have wide : (0 : Int) ≤ n ∧ (n : Int) ≤ wideLimit := by
    unfold greatestInt at small
    unfold wideLimit
    omega
  have stands : Schema.wide.ofDocument? (.int n) = some (.int n) := if_pos wide
  have reading : (s.ofWire .wide (.int n)).toOption = Schema.wide.ofDocument? (s.form (.int n)) :=
    s.ofWire_eq (isDocument_natural small) (.int n) trivial
  rw [form_natural, stands] at reading
  cases read : s.ofWire .wide (.int n) with
  | error e =>
    rw [read] at reading
    cases reading
  | ok j =>
    rw [read] at reading
    cases reading
    rfl

/-- The compact serializer refuses a number that no document can hold. -/
theorem toWire_compact_large (large : greatestInt < n) :
    compact.toWire (.value (.int n)) = .error (.unwritable .numberOutOfRange) := by
  have outside : ¬ (leastInt ≤ (n : Int) ∧ (n : Int) ≤ greatestInt) := by omega
  simp [toWire, serialize, prepare, Json.int, toDocument, Number.toDocument, outside, bind, Except.bind]

/-- What the verbose serializer has written of such a number is a floating-point number. -/
theorem toWire_verbose_large (large : greatestInt < n) (wide : n ≤ wideLimit) :
    ∃ y, verbose.toWire (.value (.int n)) = .ok (.num (.double y)) := by
  have long : mantissaLimit < n := by
    unfold greatestInt at large
    unfold mantissaLimit
    omega
  obtain ⟨y, reading⟩ := read_print_wide long wide
  exact ⟨y, by simp [toWire, serialize, prepare, deserialize, reading, bind, Except.bind]⟩

/-- A floating-point number is no natural number. -/
theorem ofWire_wide_double (s : Serializer) (x : Number.Binary) :
    ∃ e, s.ofWire .wide (.num (.double x)) = .error e := by
  obtain ⟨e, refused⟩ := read_wide_double x
  have written : s.serialize (.value (.num (.double x))) = .ok (Json.num (.double x)).print := by
    cases s <;> rfl
  exact ⟨.unreadable e, by simp [ofWire, written, deserialize, refused, bind, Except.bind]⟩

end DeviceTwin.Serializer
