import DeviceTwin.Json.Token
import DeviceTwin.Proofs.Text.Numeral

/-!
Reading digits. A reader takes digits as long as a limit allows (`takeDigits_digits`); a numeral within the limit is
read as its number (`readNumber_numeral`), and of a longer fraction as much as the limit allows (`readFraction_digits`).
-/
namespace DeviceTwin.Json
open DeviceTwin.Number DeviceTwin.Text

/-- All characters are digits. -/
def Digits (l : List Char) : Prop := ∀ c ∈ l, c.isDigit = true

variable {ds l rest : List Char} {c : Char} {limit m n : Nat} {negative : Bool}

theorem digits_decimal (n : Nat) : Digits (decimal n) := isDigit_decimal n

/-- Digits that a number may begin with: a zero alone, or digits after another one. -/
structure Numeral (l : List Char) : Prop where
  digits : Digits l
  leading : l = ['0'] ∨ ∃ c tail, l = c :: tail ∧ c ≠ '0'

theorem numeral_decimal (n : Nat) : Numeral (decimal n) := by
  refine ⟨digits_decimal n, ?_⟩
  cases numeral : decimal n with
  | nil => exact absurd numeral (decimal_ne_nil n)
  | cons c tail =>
    by_cases zero : c = '0'
    · subst zero
      left
      rw [eq_zero_of_decimal numeral, decimal_of_lt (by decide)] at numeral
      exact numeral.symm
    · exact .inr ⟨c, tail, rfl, zero⟩

theorem digits_cons : Digits (c :: l) ↔ c.isDigit = true ∧ Digits l := List.forall_mem_cons

theorem digits_append : Digits (ds ++ l) ↔ Digits ds ∧ Digits l := List.forall_mem_append

theorem startsWithDigit_append (digits : Digits ds) (ends : startsWithDigit rest = false) :
    startsWithDigit (ds ++ rest) = !ds.isEmpty := by
  cases ds with
  | nil => exact ends
  | cons c ds => exact digits c List.mem_cons_self

theorem dropWhile_digits (digits : Digits ds) (ends : startsWithDigit rest = false) :
    (ds ++ rest).dropWhile Char.isDigit = rest := by
  rw [List.dropWhile_append_of_pos digits]
  cases rest with
  | nil => rfl
  | cons c rest => exact List.dropWhile_cons_of_neg (by simpa [startsWithDigit] using ends)

/-! ### Values -/

theorem le_ofDecimalFrom (n : Nat) (l : List Char) : n * 10 ^ l.length ≤ ofDecimalFrom n l := by
  induction l generalizing n with
  | nil => simp
  | cons c l ih =>
    rw [ofDecimalFrom_cons, List.length_cons, Nat.pow_succ, Nat.mul_comm (10 ^ _), ← Nat.mul_assoc]
    exact Nat.le_trans (Nat.mul_le_mul_right _ (Nat.le_add_right _ _)) (ih _)

theorem digit_le (digit : c.isDigit = true) : c.toNat - 48 ≤ 9 := by
  simp only [Char.isDigit, Bool.and_eq_true, decide_eq_true_eq, ge_iff_le, UInt32.le_iff_toNat_le] at digit
  have low := digit.2
  simp only [Char.toNat]
  exact Nat.sub_le_of_le_add low

theorem ofDecimalFrom_lt (digits : Digits l) (n : Nat) : ofDecimalFrom n l < (n + 1) * 10 ^ l.length := by
  induction l generalizing n with
  | nil => simp
  | cons c l ih =>
    obtain ⟨digit, digits⟩ := digits_cons.mp digits
    have small := digit_le digit
    rw [ofDecimalFrom_cons, List.length_cons, Nat.pow_succ, Nat.mul_comm (10 ^ _), ← Nat.mul_assoc]
    exact Nat.lt_of_lt_of_le (ih digits _) (Nat.mul_le_mul_right _ (by omega))

/-! ### Readers -/

/-- Digits are taken up to the limit, and all of them when the limit allows. -/
theorem takeDigits_digits (digits : Digits ds) (ends : startsWithDigit rest = false) (limit n : Nat) :
    ∃ taken left, ds = taken ++ left ∧ takeDigits limit n (ds ++ rest) = (ofDecimalFrom n taken, left ++ rest) ∧
      (n ≤ limit → ofDecimalFrom n taken ≤ limit) ∧ (ofDecimalFrom n ds ≤ limit → left = []) := by
  induction ds generalizing n with
  | nil =>
    refine ⟨[], [], rfl, ?_, id, fun _ => rfl⟩
    cases rest with
    | nil => rfl
    | cons c rest =>
      simp only [startsWithDigit] at ends
      simp [takeDigits, ends]
  | cons c ds ih =>
    obtain ⟨digit, digits⟩ := digits_cons.mp digits
    by_cases small : n * 10 + (c.toNat - 48) ≤ limit
    · obtain ⟨taken, left, rfl, taking, bounded, whole⟩ := ih digits (n * 10 + (c.toNat - 48))
      refine ⟨c :: taken, left, rfl, ?_, fun _ => ?_, ?_⟩
      · rw [List.cons_append, takeDigits, if_pos ⟨digit, small⟩, taking, ofDecimalFrom_cons]
      · rw [ofDecimalFrom_cons]
        exact bounded small
      · rw [ofDecimalFrom_cons]
        exact whole
    · refine ⟨[], c :: ds, rfl, ?_, id, fun whole => ?_⟩
      · rw [List.cons_append, takeDigits, if_neg fun both => small both.2]
        rfl
      · rw [ofDecimalFrom_cons] at whole
        have below := le_ofDecimalFrom (n * 10 + (c.toNat - 48)) ds
        have one : 1 ≤ 10 ^ ds.length := Nat.one_le_pow _ _ (by decide)
        have start := Nat.le_mul_of_pos_right (n * 10 + (c.toNat - 48)) one
        omega

/-- A numeral within the limit is read as its number. -/
theorem readNumber_numeral (numeral : Numeral ds) (small : ofDecimalFrom 0 ds ≤ mantissaLimit)
    (ends : startsWithDigit rest = false) (negative : Bool) :
    readNumber negative (ds ++ rest) = readAfterInteger negative (ofDecimalFrom 0 ds) rest := by
  obtain ⟨digits, rfl | ⟨c, l, rfl, leading⟩⟩ := numeral
  · simp [readNumber, ends, ofDecimalFrom]
  · obtain ⟨digit, digits⟩ := digits_cons.mp digits
    rw [ofDecimalFrom_cons, Nat.zero_mul, Nat.zero_add] at small ⊢
    obtain ⟨taken, left, split, taking, _, whole⟩ := takeDigits_digits digits ends mantissaLimit (c.toNat - 48)
    rw [whole small, List.append_nil] at split
    rw [whole small, List.nil_append] at taking
    rw [List.cons_append, readNumber.eq_3 _ _ _ (fun zero => leading zero)]
    simp only [digit, if_true, taking, ends, Bool.false_eq_true, if_false]
    rw [split]

/-- Of the digits of a fraction as many are taken as the limit allows. -/
theorem readFraction_digits (digits : Digits ds) (some_ : ds ≠ []) (ends : startsWithDigit rest = false)
    (negative : Bool) (small : m ≤ mantissaLimit) (exponent : Int) :
    ∃ s t, readFraction negative m exponent (ds ++ rest) = readAfterDigits negative s (exponent - (t : Nat)) rest ∧
      s ≤ mantissaLimit ∧ t ≤ ds.length ∧ s * 10 ^ (ds.length - t) ≤ ofDecimalFrom m ds ∧
      (ofDecimalFrom m ds ≤ mantissaLimit → s = ofDecimalFrom m ds ∧ t = ds.length) := by
  obtain ⟨taken, left, split, taking, bounded, whole⟩ := takeDigits_digits digits ends mantissaLimit m
  have left_ : Digits left := (digits_append.mp (split ▸ digits)).2
  have count : (ds ++ rest).length - (left ++ rest).length = taken.length := by
    simp only [split, List.length_append]
    omega
  refine ⟨ofDecimalFrom m taken, taken.length, ?_, bounded small, ?_, ?_, ?_⟩
  · simp only [readFraction, taking, count, startsWithDigit_append left_ ends]
    cases left with
    | nil =>
      have nonempty : taken.length ≠ 0 := by
        intro none
        rw [List.length_eq_zero_iff.mp none] at split
        exact some_ split
      simp [nonempty]
    | cons c left => simp only [List.isEmpty_cons, Bool.not_false, if_true, dropWhile_digits left_ ends]
  · simp [split]
  · have more := le_ofDecimalFrom (ofDecimalFrom m taken) left
    rw [split, ofDecimalFrom_append, List.length_append, Nat.add_sub_cancel_left]
    exact more
  · intro fits
    have all := whole fits
    rw [all, List.append_nil] at split
    rw [split]
    exact ⟨rfl, rfl⟩

end DeviceTwin.Json
