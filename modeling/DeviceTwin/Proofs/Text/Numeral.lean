import DeviceTwin.Text.Numeral
import Mathlib.Algebra.Group.Nat.Defs

/-!
Decimal numerals. A numeral consists of digits, begins with a zero only if it is that of zero, and stands for the
number it was made from.
-/
namespace DeviceTwin.Text

variable {n fuel : Nat} {c : Char} {l : List Char}

theorem digitsOnto_tail (base fuel n : Nat) (tail : List Char) :
    digitsOnto base fuel n tail = digitsOnto base fuel n [] ++ tail := by
  induction fuel generalizing n tail with
  | zero => rfl
  | succ fuel ih =>
    by_cases small : n < base
    · simp [digitsOnto, small]
    · rw [digitsOnto, digitsOnto, if_neg small, if_neg small, ih, ih _ [_], List.append_assoc]
      rfl

/-- More fuel than the number makes no difference. -/
theorem digitsOnto_fuel {base : Nat} (proper : 2 ≤ base) (enough : n < fuel) (tail : List Char) :
    digitsOnto base fuel n tail = digitsOnto base (n + 1) n tail := by
  induction n using Nat.strongRecOn generalizing fuel tail with
  | _ n ih =>
    cases fuel with
    | zero => omega
    | succ fuel =>
      by_cases small : n < base
      · simp [digitsOnto, small]
      · have less : n / base < n := Nat.div_lt_self (by omega) proper
        rw [digitsOnto, digitsOnto, if_neg small, if_neg small, ih _ less (by omega), ih _ less less]

theorem decimal_of_lt (small : n < 10) : decimal n = [digitChar n] := by
  simp [decimal, digits, digitsOnto, small]

theorem decimal_of_le (large : 10 ≤ n) : decimal n = decimal (n / 10) ++ [digitChar (n % 10)] := by
  have less : n / 10 < n := by omega
  rw [decimal, digits, digitsOnto, if_neg (by omega), digitsOnto_fuel (by decide) less, digitsOnto_tail]
  rfl

/-- Numerals by their last digit. -/
theorem decimal_induction {P : Nat → Prop} (single : ∀ n, n < 10 → P n) (more : ∀ n, 10 ≤ n → P (n / 10) → P n)
    (n : Nat) : P n := by
  induction n using Nat.strongRecOn with
  | _ n ih =>
    by_cases small : n < 10
    · exact single n small
    · exact more n (by omega) (ih _ (by omega))

/-! ### Digits -/

theorem isDigit_digitChar (small : n < 10) : (digitChar n).isDigit = true := by
  revert n
  decide

theorem toNat_of_isDigit (digit : c.isDigit = true) : 48 ≤ c.toNat ∧ c.toNat ≤ 57 := by
  simpa [Char.isDigit, UInt32.le_iff_toNat_le] using digit

theorem toNat_digitChar (small : n < 10) : (digitChar n).toNat - 48 = n := by
  revert n
  decide

theorem digitChar_eq_zero (small : n < 10) (zero : digitChar n = '0') : n = 0 := by
  revert n
  decide

theorem isDigit_decimal (n : Nat) : ∀ c ∈ decimal n, c.isDigit = true := by
  induction n using decimal_induction with
  | single n small =>
    rw [decimal_of_lt small]
    simpa using isDigit_digitChar small
  | more n large ih =>
    rw [decimal_of_le large]
    intro c member
    rcases List.mem_append.mp member with front | last
    · exact ih c front
    · rw [List.mem_singleton.mp last]
      exact isDigit_digitChar (by omega)

theorem decimal_ne_nil (n : Nat) : decimal n ≠ [] := by
  by_cases small : n < 10
  · simp [decimal_of_lt small]
  · simp [decimal_of_le (Nat.le_of_not_lt small)]

/-- Only the numeral of zero begins with a zero. -/
theorem eq_zero_of_decimal (begins : decimal n = '0' :: l) : n = 0 := by
  induction n using decimal_induction generalizing l with
  | single n small =>
    rw [decimal_of_lt small] at begins
    exact digitChar_eq_zero small (List.cons.inj begins).1
  | more n large ih =>
    rw [decimal_of_le large] at begins
    cases front : decimal (n / 10) with
    | nil => exact absurd front (decimal_ne_nil _)
    | cons c cs =>
      rw [front, List.cons_append] at begins
      obtain ⟨rfl, -⟩ := List.cons.inj begins
      have zero := ih front
      omega

/-! ### Values -/

theorem ofDecimalFrom_append (start : Nat) (l l' : List Char) :
    ofDecimalFrom start (l ++ l') = ofDecimalFrom (ofDecimalFrom start l) l' :=
  List.foldl_append

@[simp] theorem ofDecimalFrom_nil (start : Nat) : ofDecimalFrom start [] = start := by
  simp only [ofDecimalFrom, List.foldl_nil]

@[simp] theorem ofDecimalFrom_cons (start : Nat) (c : Char) (l : List Char) :
    ofDecimalFrom start (c :: l) = ofDecimalFrom (start * 10 + (c.toNat - 48)) l := by
  simp only [ofDecimalFrom, List.foldl_cons]

/-- A numeral after a number stands for that number, moved to the left, and its own. -/
theorem ofDecimalFrom_decimal (start n : Nat) :
    ofDecimalFrom start (decimal n) = start * 10 ^ (decimal n).length + n := by
  induction n using decimal_induction with
  | single n small =>
    rw [decimal_of_lt small, ofDecimalFrom_cons, ofDecimalFrom_nil, toNat_digitChar small]
    rfl
  | more n large ih =>
    rw [decimal_of_le large, ofDecimalFrom_append, ih, ofDecimalFrom_cons, ofDecimalFrom_nil,
      toNat_digitChar (by omega), List.length_append, List.length_singleton, Nat.pow_succ]
    rw [Nat.add_mul, Nat.mul_assoc]
    omega

/-- A number is what its numeral stands for. -/
theorem ofDecimal?_decimal (n : Nat) : ofDecimal? (decimal n) = some n := by
  have digits : (decimal n).any (fun c => !c.isDigit) = false := by
    simpa using isDigit_decimal n
  rw [ofDecimal?, digits, if_neg (by simpa using decimal_ne_nil n), ofDecimalFrom_decimal, Nat.zero_mul, Nat.zero_add]

theorem decimal_injective : Function.Injective decimal := by
  intro n m same
  have value := ofDecimal?_decimal n
  rw [same, ofDecimal?_decimal] at value
  exact (Option.some.inj value).symm

theorem lt_pow_length_decimal (n : Nat) : n < 10 ^ (decimal n).length := by
  induction n using decimal_induction with
  | single n small => simpa [decimal_of_lt small] using small
  | more n large ih =>
    rw [decimal_of_le large, List.length_append, List.length_singleton, Nat.pow_succ]
    omega

theorem pow_length_decimal_le (positive : 0 < n) : 10 ^ ((decimal n).length - 1) ≤ n := by
  induction n using decimal_induction with
  | single n small =>
    rw [decimal_of_lt small]
    exact positive
  | more n large ih =>
    have front := ih (by omega)
    obtain ⟨digits, length⟩ : ∃ digits, (decimal (n / 10)).length = digits + 1 :=
      Nat.exists_eq_succ_of_ne_zero (by simpa using decimal_ne_nil (n / 10))
    rw [length, Nat.add_sub_cancel] at front
    rw [decimal_of_le large, List.length_append, List.length_singleton, Nat.add_sub_cancel, length, Nat.pow_succ]
    omega

end DeviceTwin.Text
