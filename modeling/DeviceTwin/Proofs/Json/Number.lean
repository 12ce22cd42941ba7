import DeviceTwin.Json.Printer
import DeviceTwin.Proofs.Json.Digits
import DeviceTwin.Proofs.Number.Decimal
import DeviceTwin.Proofs.Number.Shortest

/-!
Numbers of documents. An integer is read back as itself (`readNumber_int`). A floating-point number is read back as a
floating-point number (`readNumber_double`), though not always as the same one; what has to be shown is that it does
not overflow on the way.
-/
namespace DeviceTwin.Json
open DeviceTwin.Number DeviceTwin.Text

variable {l ds fs rest : List Char} {x : Binary} {s m n : Nat} {negative minus : Bool} {exponent : Int}

/-- The text ends here, or something ends in which the value stands. -/
def Delimited : List Char → Prop
  | [] => True
  | c :: _ => c = ',' ∨ c = ']' ∨ c = '\x7d'

/-- A number ends in front of this: no digit comes next, no fraction and no exponent. -/
structure NumberEnds (rest : List Char) : Prop where
  noDigit : startsWithDigit rest = false
  after : ∀ negative m, readAfterInteger negative m rest = .ok (wholeNumber negative m, rest)

namespace Delimited

theorem ends (delimited : Delimited rest) : startsWithDigit rest = false := by
  cases rest with
  | nil => rfl
  | cons c rest => rcases delimited with rfl | rfl | rfl <;> rfl

theorem afterDigits (delimited : Delimited rest) (negative : Bool) (m : Nat) (exponent : Int) :
    readAfterDigits negative m exponent rest = ofParts negative m exponent rest := by
  cases rest with
  | nil => rfl
  | cons c rest => rcases delimited with rfl | rfl | rfl <;> rfl

theorem afterInteger (delimited : Delimited rest) (negative : Bool) (m : Nat) :
    readAfterInteger negative m rest = .ok (wholeNumber negative m, rest) := by
  cases rest with
  | nil => rfl
  | cons c rest => rcases delimited with rfl | rfl | rfl <;> rfl

theorem numberEnds (delimited : Delimited rest) : NumberEnds rest :=
  ⟨delimited.ends, delimited.afterInteger⟩

end Delimited

/-! ### Integers -/

theorem readNumber_decimal (ends : NumberEnds rest) (small : n ≤ mantissaLimit) (negative : Bool) :
    readNumber negative (decimal n ++ rest) = .ok (wholeNumber negative n, rest) := by
  have value : ofDecimalFrom 0 (decimal n) = n := by rw [ofDecimalFrom_decimal, Nat.zero_mul, Nat.zero_add]
  rw [readNumber_numeral (numeral_decimal n) (by rwa [value]) ends.noDigit, value, ends.after]

/-- The text of an integer is a sign, if it is negative, and what is read as the integer after it. -/
theorem readNumber_int {k : Int} (least : leastInt ≤ k) (greatest : k ≤ greatestInt) :
    ∃ negative body, signedDecimal k = (if negative then ['-'] else []) ++ body ∧
      ∀ rest, NumberEnds rest → readNumber negative (body ++ rest) = .ok (.int k, rest) := by
  unfold leastInt at least
  unfold greatestInt at greatest
  have small : k.natAbs ≤ mantissaLimit := by
    unfold mantissaLimit
    omega
  by_cases negative : k < 0
  · refine ⟨true, decimal k.natAbs, by simp [signedDecimal, negative], fun rest ends => ?_⟩
    have magnitude : 0 < k.natAbs ∧ k.natAbs ≤ 0x8000000000000000 := by omega
    have same : -(k.natAbs : Int) = k := by omega
    rw [readNumber_decimal ends small true]
    simp only [wholeNumber, Bool.not_true, Bool.false_eq_true, if_false, if_pos magnitude, same]
  · refine ⟨false, decimal k.natAbs, by simp [signedDecimal, negative], fun rest ends => ?_⟩
    have same : (k.natAbs : Int) = k := by omega
    rw [readNumber_decimal ends small false]
    simp [wholeNumber, same]

/-! ### Decimals that do not overflow -/

theorem ofParts_of_isSome (some_ : (ofDecimalParts negative m exponent).isSome = true) (rest : List Char) :
    ∃ y, ofParts negative m exponent rest = .ok (.double y, rest) := by
  obtain ⟨y, parts⟩ := Option.isSome_iff_exists.mp some_
  exact ⟨y, by simp [ofParts, parts]⟩

theorem isSome_ofDecimalParts_nonpos (negative : Bool) (small : m ≤ mantissaLimit) (low : exponent ≤ 0) :
    (ofDecimalParts negative m exponent).isSome = true := by
  have less : m < 2 ^ 64 := by
    unfold mantissaLimit at small
    omega
  by_cases below : exponent < 0
  · exact isSome_ofDecimalParts_neg negative less below
  · obtain rfl : exponent = 0 := by omega
    refine isSome_ofDecimalParts negative less (Int.le_refl 0) ?_
    have cast : (m : ℚ) ≤ 2 ^ 64 := by exact_mod_cast less.le
    simp only [Int.natAbs_zero, pow_zero, mul_one]
    calc (m : ℚ) ≤ 1 * 2 ^ 64 := by rwa [one_mul]
      _ ≤ (2 ^ 54 - 7) * 2 ^ 970 := by
          gcongr
          · norm_num
          · exact one_le_two
          · decide

/-! ### Positional numbers -/

/-- A number with a fraction and at most sixteen digits before it. -/
theorem readNumber_point (numeral : Numeral ds) (short : ds.length ≤ 16) (digits : Digits fs) (some_ : fs ≠ [])
    (delimited : Delimited rest) (negative : Bool) :
    ∃ y, readNumber negative (ds ++ '.' :: (fs ++ rest)) = .ok (.double y, rest) := by
  have small : ofDecimalFrom 0 ds ≤ mantissaLimit := by
    have less := ofDecimalFrom_lt numeral.digits 0
    have power : 10 ^ ds.length ≤ 10 ^ 16 := Nat.pow_le_pow_right (by decide) short
    unfold mantissaLimit
    omega
  obtain ⟨s, t, fraction, bounded, _⟩ := readFraction_digits digits some_ delimited.ends negative small 0
  rw [readNumber_numeral numeral small rfl]
  simp only [readAfterInteger, fraction, delimited.afterDigits]
  exact ofParts_of_isSome (isSome_ofDecimalParts_nonpos negative bounded (by omega)) rest

/-- Digits with a point in or before or after them. -/
theorem pointed_eq (numeral : Numeral l) (n : Nat) :
    ∃ ds fs, pointed l n = ds ++ '.' :: fs ∧ Numeral ds ∧ Digits fs ∧ fs ≠ [] ∧ ds.length ≤ max (l.length - n) 1 := by
  by_cases none : n = 0
  · refine ⟨l, ['0'], by simp [pointed, none], numeral, by simp [Digits], by simp, ?_⟩
    omega
  by_cases long : n < l.length
  · have filled : List.replicate (n + 1 - l.length) '0' ++ l = l := by
      rw [show n + 1 - l.length = 0 by omega]
      rfl
    refine ⟨l.take (l.length - n), l.drop (l.length - n), by simp only [pointed, if_neg none, filled], ?_, ?_, ?_, ?_⟩
    · refine ⟨fun c member => numeral.digits c (List.mem_of_mem_take member), ?_⟩
      rcases numeral.leading with rfl | ⟨c, tail, rfl, nonzero⟩
      · simp only [List.length_singleton] at long
        omega
      · obtain ⟨k, count⟩ : ∃ k, (c :: tail).length - n = k + 1 := ⟨(c :: tail).length - n - 1, by omega⟩
        exact .inr ⟨c, tail.take k, by rw [count, List.take_succ_cons], nonzero⟩
    · exact fun c member => numeral.digits c (List.mem_of_mem_drop member)
    · simp only [ne_eq, List.drop_eq_nil_iff]
      omega
    · rw [List.length_take]
      omega
  · obtain ⟨k, count⟩ : ∃ k, n + 1 - l.length = k + 1 := ⟨n - l.length, by omega⟩
    refine ⟨['0'], List.replicate k '0' ++ l, ?_, ⟨by simp [Digits], .inl rfl⟩, ?_, ?_, by simp⟩
    · have one : (List.replicate (n + 1 - l.length) '0' ++ l).length - n = 1 := by
        rw [List.length_append, List.length_replicate]
        omega
      simp only [pointed, if_neg none, one]
      rw [count, List.replicate_succ]
      rfl
    · refine digits_append.mpr ⟨fun c member => ?_, numeral.digits⟩
      rw [List.eq_of_mem_replicate member]
      rfl
    · intro empty
      have length := congrArg List.length empty
      simp only [List.length_append, List.length_replicate, List.length_nil] at length
      rcases numeral.leading with rfl | ⟨c, tail, rfl, _⟩
      · simp at length
      · simp at length

/-! ### Numbers with an exponent -/

theorem digit_le_exponentLimit {c : Char} (digit : c.isDigit = true) : c.toNat - 48 ≤ exponentLimit :=
  (digit_le digit).trans (by decide)

/-- An exponent is read as its number; one that is too long makes the number zero, or too large. -/
theorem readExponentDigits_decimal (delimited : Delimited rest) (negative : Bool) (m : Nat) (exponent : Int)
    (minus : Bool) (n : Nat) :
    readExponentDigits negative m exponent minus (decimal n ++ rest) =
      if n ≤ exponentLimit then ofParts negative m (if minus then exponent - n else exponent + n) rest
      else if m ≠ 0 ∧ !minus then .error .numberOutOfRange
      else .ok (.double (zero double negative), rest) := by
  have digits := digits_decimal n
  have value : ofDecimalFrom 0 (decimal n) = n := by rw [ofDecimalFrom_decimal, Nat.zero_mul, Nat.zero_add]
  cases numeral : decimal n with
  | nil => exact absurd numeral (decimal_ne_nil n)
  | cons c tail =>
    rw [numeral] at digits value
    obtain ⟨digit, digits⟩ := digits_cons.mp digits
    rw [ofDecimalFrom_cons, Nat.zero_mul, Nat.zero_add] at value
    obtain ⟨taken, left, split, taking, bounded, whole⟩ :=
      takeDigits_digits digits delimited.ends exponentLimit (c.toNat - 48)
    have left_ : Digits left := (digits_append.mp (split ▸ digits)).2
    simp only [List.cons_append, readExponentDigits, digit, if_true, taking,
      startsWithDigit_append left_ delimited.ends, dropWhile_digits left_ delimited.ends]
    by_cases small : n ≤ exponentLimit
    · have all := whole (by rwa [value])
      subst all
      rw [List.append_nil] at split
      subst split
      simp [small, value]
    · have more : left ≠ [] := by
        rintro rfl
        rw [List.append_nil] at split
        subst split
        exact small (value ▸ bounded (digit_le_exponentLimit digit))
      simp [small, more]

/-- The first digit, and after a point the others. -/
def leadingPoint : List Char → List Char
  | c :: [] => [c]
  | c :: tail => c :: '.' :: tail
  | [] => []

/-- A decimal with a leading digit that is too large or too small for positional digits is written with an exponent. -/
theorem write_scientific {layout : Layout} {lead : Int} (position : lead = exponent + l.length - 1)
    (outside : ¬ (layout.least ≤ lead ∧ lead ≤ layout.greatest)) :
    layout.write l exponent = leadingPoint l ++ 'e' :: (if lead < 0 then '-' else '+') :: decimal lead.natAbs := by
  subst position
  simp only [Layout.write, if_neg outside]
  match l with
  | [] => rfl
  | [_] => rfl
  | _ :: _ :: _ => rfl

/-- Of the digits before an exponent as many are read as the limit allows. -/
theorem readNumber_leadingPoint (positive : 0 < n) (negative : Bool) (cs : List Char) :
    ∃ s t, readNumber negative (leadingPoint (decimal n) ++ 'e' :: cs) = readExponent negative s (-(t : Nat)) cs ∧
      s ≤ mantissaLimit ∧ t < (decimal n).length ∧ s * 10 ^ ((decimal n).length - 1 - t) ≤ n ∧
      (n ≤ mantissaLimit → s = n ∧ t = (decimal n).length - 1) := by
  have value : ofDecimalFrom 0 (decimal n) = n := by rw [ofDecimalFrom_decimal, Nat.zero_mul, Nat.zero_add]
  have digits := digits_decimal n
  cases numeral : decimal n with
  | nil => exact absurd numeral (decimal_ne_nil n)
  | cons c tail =>
    have nonzero : c ≠ '0' := by
      rintro rfl
      exact positive.ne' (eq_zero_of_decimal numeral)
    rw [numeral] at value digits
    obtain ⟨digit, digits⟩ := digits_cons.mp digits
    have first : Numeral [c] := ⟨by simp [Digits, digit], .inr ⟨c, [], rfl, nonzero⟩⟩
    have single : ofDecimalFrom 0 [c] = c.toNat - 48 := by simp
    have small : ofDecimalFrom 0 [c] ≤ mantissaLimit := by
      rw [single]
      exact (digit_le digit).trans (by decide)
    cases tail with
    | nil =>
      refine ⟨n, 0, ?_, value ▸ small, by simp, by simp, by simp⟩
      have ends : startsWithDigit ('e' :: cs) = false := rfl
      have reading := readNumber_numeral first small ends negative
      rw [value] at reading
      simpa [leadingPoint, readAfterInteger] using reading
    | cons c' tail =>
      have ends : startsWithDigit ('e' :: cs) = false := rfl
      obtain ⟨s, t, fraction, bounded, count, share, whole⟩ :=
        readFraction_digits digits (by simp) ends negative small 0
      have join : ofDecimalFrom (ofDecimalFrom 0 [c]) (c' :: tail) = n := by
        rw [← ofDecimalFrom_append]
        exact value
      rw [join] at share whole
      refine ⟨s, t, ?_, bounded, by simpa [Nat.lt_succ_iff] using count, by simpa using share, by simpa using whole⟩
      have point : startsWithDigit ('.' :: (c' :: tail ++ 'e' :: cs)) = false := rfl
      have reading := readNumber_numeral first small point negative
      simp only [readAfterInteger, fraction, readAfterDigits, Int.zero_sub] at reading
      simpa [leadingPoint] using reading

/-! ### Shortest decimals -/

/-- The three largest numbers, whose shortest decimals are read back without overflow. -/
theorem greatest_read :
    ∀ n < 3, ∀ side : Bool, (shortest double ⟨side, 2 ^ 53 - 1 - n, 971⟩).digits ≤ mantissaLimit ∧
      ∀ negative : Bool, (ofDecimalParts negative (shortest double ⟨side, 2 ^ 53 - 1 - n, 971⟩).digits
        (shortest double ⟨side, 2 ^ 53 - 1 - n, 971⟩).exponent).isSome = true := by
  decide +kernel

/-- A shortest decimal is a little below the largest number, or that of one of the three largest. -/
theorem shortest_bounded (fits : x.Fits double) :
    ((shortest double x).digits : ℚ) * 10 ^ (shortest double x).exponent ≤ (2 ^ 54 - 7) * 2 ^ 970 ∨
      ∃ k, k < 3 ∧ x.mantissa = 2 ^ 53 - 1 - k ∧ x.exponent = 971 := by
  obtain ⟨mantissa, exponent⟩ := fits
  have less : x.mantissa < 2 ^ 53 := mantissa
  have low : x.exponent ≤ 971 := exponent
  by_cases top : x.exponent = 971 ∧ 2 ^ 53 - 3 ≤ x.mantissa
  · exact .inr ⟨2 ^ 53 - 1 - x.mantissa, by omega, by omega, top.1⟩
  left
  refine (shortest_le double x).trans ?_
  by_cases last : x.exponent = 971
  · have below : x.mantissa + 4 ≤ 2 ^ 53 := by omega
    have cast : (x.mantissa : ℚ) + 4 ≤ 2 ^ 53 := by exact_mod_cast below
    have next : (2 : ℚ) ^ (971 : ℤ) = 2 * 2 ^ 970 := by
      rw [← zpow_natCast, ← zpow_one_add₀ two_ne_zero]
      rfl
    have share : ((x.mantissa : ℚ) + 1 / 2) * 2 ≤ 2 ^ 54 - 7 := by linarith
    rw [last, next, ← mul_assoc]
    exact mul_le_mul_of_nonneg_right share (by positivity)
  · have cast : (x.mantissa : ℚ) ≤ 2 ^ 53 := by exact_mod_cast less.le
    have power : (2 : ℚ) ^ x.exponent ≤ 2 ^ 970 := by
      rw [← zpow_natCast]
      exact zpow_le_zpow_right₀ one_le_two (by push_cast; omega)
    have share : (x.mantissa : ℚ) + 1 / 2 ≤ 2 ^ 54 - 7 := by linarith
    exact mul_le_mul share power (by positivity) (by norm_num)

theorem shortest_lt (fits : x.Fits double) :
    ((shortest double x).digits : ℚ) * 10 ^ (shortest double x).exponent < 10 ^ 309 := by
  have cast : (x.mantissa : ℚ) + 1 ≤ 2 ^ 53 := by exact_mod_cast fits.1
  have power : (2 : ℚ) ^ x.exponent ≤ 2 ^ 971 := by
    rw [← zpow_natCast]
    exact zpow_le_zpow_right₀ one_le_two fits.2
  have whole : 2 ^ 53 * 2 ^ 971 < 10 ^ 309 := by decide +kernel
  calc ((shortest double x).digits : ℚ) * 10 ^ (shortest double x).exponent
      ≤ (x.mantissa + 1 / 2) * 2 ^ x.exponent := shortest_le double x
    _ ≤ 2 ^ 53 * 2 ^ 971 := by
        gcongr
        linarith
    _ < 10 ^ 309 := by exact_mod_cast whole

/-- The digits that are read of a shortest decimal make a number with its exponent. -/
theorem isSome_ofDecimalParts_shortest (fits : x.Fits double) {d : Decimal} (shortest_ : shortest double x = d)
    {s t len : Nat} (small : s ≤ mantissaLimit) (inside : t < len) (share : s * 10 ^ (len - 1 - t) ≤ d.digits)
    (whole : d.digits ≤ mantissaLimit → s = d.digits ∧ t = len - 1) (negative : Bool) :
    (ofDecimalParts negative s (-(t : Nat) + (d.exponent + len - 1))).isSome = true := by
  subst shortest_
  by_cases low : -(t : Int) + ((shortest double x).exponent + len - 1) ≤ 0
  · exact isSome_ofDecimalParts_nonpos negative small low
  rcases shortest_bounded fits with bounded | ⟨k, few, mantissa, exponent⟩
  · have less : s < 2 ^ 64 := by
      unfold mantissaLimit at small
      omega
    refine isSome_ofDecimalParts negative less (by omega) (le_trans ?_ bounded)
    have cast : (s : ℚ) * 10 ^ (len - 1 - t) ≤ (shortest double x).digits := by exact_mod_cast share
    calc (s : ℚ) * 10 ^ (-(t : Int) + ((shortest double x).exponent + len - 1)).natAbs
        = s * 10 ^ (len - 1 - t) * 10 ^ (shortest double x).exponent := by
          rw [← zpow_natCast, ← zpow_natCast, mul_assoc, ← zpow_add₀ (by norm_num)]
          congr 2
          omega
      _ ≤ (shortest double x).digits * 10 ^ (shortest double x).exponent := by gcongr
  · obtain ⟨side, m, e⟩ := x
    obtain rfl : m = 2 ^ 53 - 1 - k := mantissa
    obtain rfl : e = 971 := exponent
    obtain ⟨fit, read⟩ := greatest_read k few side
    obtain ⟨same, count⟩ := whole fit
    have place : -(t : Int) + ((shortest double ⟨side, 2 ^ 53 - 1 - k, 971⟩).exponent + len - 1) =
        (shortest double ⟨side, 2 ^ 53 - 1 - k, 971⟩).exponent := by omega
    rw [same, place]
    exact read negative

/-- A number of 64 bits has no more than 309 digits before the point. -/
theorem lead_shortest (fits : x.Fits double) (positive : 0 < x.mantissa) :
    (shortest double x).exponent + (decimal (shortest double x).digits).length - 1 < 309 := by
  have low := pow_length_decimal_le (shortest_pos double positive)
  have length : 0 < (decimal (shortest double x).digits).length := List.length_pos_iff.mpr (decimal_ne_nil _)
  have cast : (10 : ℚ) ^ ((decimal (shortest double x).digits).length - 1) ≤ (shortest double x).digits := by
    exact_mod_cast low
  have power : (10 : ℚ) ^ ((shortest double x).exponent + (decimal (shortest double x).digits).length - 1) <
      10 ^ (309 : ℤ) := by
    calc (10 : ℚ) ^ ((shortest double x).exponent + (decimal (shortest double x).digits).length - 1)
        = 10 ^ ((decimal (shortest double x).digits).length - 1) * 10 ^ (shortest double x).exponent := by
          rw [← zpow_natCast, ← zpow_add₀ (by norm_num)]
          congr 1
          omega
      _ ≤ (shortest double x).digits * 10 ^ (shortest double x).exponent := by gcongr
      _ < 10 ^ 309 := shortest_lt fits
      _ = 10 ^ (309 : ℤ) := (zpow_natCast 10 309).symm
  exact (zpow_lt_zpow_iff_right₀ (by norm_num)).mp power

/-- A floating-point number is read back as a floating-point number. -/
theorem readNumber_double (fits : x.Fits double) (positive : 0 < x.mantissa) (delimited : Delimited rest)
    (negative : Bool) :
    ∃ y, readNumber negative
      (numberLayout.write (decimal (shortest double x).digits) (shortest double x).exponent ++ rest) =
        .ok (.double y, rest) := by
  obtain ⟨d, shortest_⟩ : ∃ d, shortest double x = d := ⟨_, rfl⟩
  have digit := shortest_pos double positive
  have high := lead_shortest fits positive
  rw [shortest_] at digit high ⊢
  by_cases positional : numberLayout.least ≤ d.exponent + (decimal d.digits).length - 1 ∧
      d.exponent + (decimal d.digits).length - 1 ≤ numberLayout.greatest
  case pos =>
    have short : d.exponent + (decimal d.digits).length - 1 ≤ 15 := positional.2
    have pieces : ∃ l n, numberLayout.write (decimal d.digits) d.exponent = pointed l n ∧ Numeral l ∧
        l.length ≤ 16 + n := by
      by_cases whole : 0 ≤ d.exponent
      · refine ⟨decimal d.digits ++ List.replicate d.exponent.natAbs '0', 0, ?_, ?_, ?_⟩
        · simp only [Layout.write, if_pos positional, if_pos whole]
        · have zeros : Digits (List.replicate d.exponent.natAbs '0') := by
            intro c member
            rw [List.eq_of_mem_replicate member]
            rfl
          refine ⟨digits_append.mpr ⟨digits_decimal _, zeros⟩, ?_⟩
          cases numeral : decimal d.digits with
          | nil => exact absurd numeral (decimal_ne_nil _)
          | cons c tail =>
            refine .inr ⟨c, _, rfl, ?_⟩
            rintro rfl
            exact digit.ne' (eq_zero_of_decimal numeral)
        · rw [List.length_append, List.length_replicate]
          omega
      · refine ⟨decimal d.digits, d.exponent.natAbs, ?_, numeral_decimal _, by omega⟩
        simp only [Layout.write, if_pos positional, if_neg whole]
    obtain ⟨l, n, written, numeral, length⟩ := pieces
    obtain ⟨ds, fs, point, first, digits, some_, before⟩ := pointed_eq numeral n
    rw [written, point, List.append_assoc, List.cons_append]
    exact readNumber_point first (by omega) digits some_ delimited negative
  case neg =>
    obtain ⟨lead, position⟩ : ∃ lead, lead = d.exponent + (decimal d.digits).length - 1 := ⟨_, rfl⟩
    rw [← position] at positional high
    rw [write_scientific position positional, List.append_assoc, List.cons_append, List.cons_append]
    obtain ⟨s, t, mantissa, small, inside, share, whole⟩ := readNumber_leadingPoint digit negative
      ((if lead < 0 then '-' else '+') :: (decimal lead.natAbs ++ rest))
    rw [mantissa]
    by_cases below : lead < 0
    · simp only [if_pos below, readExponent, readExponentDigits_decimal delimited]
      by_cases short : lead.natAbs ≤ exponentLimit
      · simp only [if_pos short, if_true]
        exact ofParts_of_isSome (isSome_ofDecimalParts_nonpos negative small (by omega)) rest
      · simp only [if_neg short]
        exact ⟨zero double negative, by simp⟩
    · have short : lead.natAbs ≤ exponentLimit := by
        unfold exponentLimit
        omega
      simp only [if_neg below, readExponent, readExponentDigits_decimal delimited, if_pos short]
      have some_ := isSome_ofDecimalParts_shortest fits shortest_ small inside share whole negative
      rw [← position] at some_
      have natural : ((lead.natAbs : ℕ) : Int) = lead := by omega
      rw [natural]
      exact ofParts_of_isSome some_ rest

/-- The text of zero is read as a floating-point number. -/
theorem readNumber_zero (delimited : Delimited rest) (negative : Bool) :
    ∃ y, readNumber negative ('0' :: '.' :: '0' :: rest) = .ok (.double y, rest) := by
  have zero : Numeral ['0'] := ⟨by simp [Digits], .inl rfl⟩
  exact readNumber_point zero (by decide) zero.digits (by simp) delimited negative

end DeviceTwin.Json
