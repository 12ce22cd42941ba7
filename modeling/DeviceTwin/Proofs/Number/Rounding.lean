import DeviceTwin.Number.Binary
import Mathlib.Algebra.Order.Field.Power
import Mathlib.Data.Nat.Log
import Mathlib.Tactic.FieldSimp
import Mathlib.Tactic.Linarith
import Mathlib.Tactic.NormNum
import Mathlib.Tactic.Positivity
import Mathlib.Tactic.Ring

/-!
Rounding to a format. The unit is chosen such that the quotient has as many bits as the format allows
(`lt_unit`, `unit_le`), so a quotient up to the largest number of the format is rounded (`isSome_round`), and the
result exceeds the quotient by half a unit at most (`value_round_le`).
-/
namespace DeviceTwin.Number

variable {f : Format} {negative : Bool} {num den bound : Nat} {e : Int} {r x : Binary}

/-! ### Quotients -/

theorem roundHalfEven_le (positive : 0 < den) (small : num ≤ bound * den) : roundHalfEven num den ≤ bound := by
  have below : num / den ≤ bound := Nat.div_le_of_le_mul (by rwa [Nat.mul_comm])
  have split := Nat.div_add_mod num den
  have rest := Nat.mod_lt num positive
  by_cases equal : num / den = bound
  · have exact_ : num % den = 0 := by
      rw [equal, Nat.mul_comm] at split
      omega
    simp [roundHalfEven, exact_, positive, equal]
  · simp only [roundHalfEven]
    split
    · omega
    · split <;> omega

theorem le_roundHalfEven (positive : 0 < den) (large : bound * den ≤ num) : bound ≤ roundHalfEven num den := by
  have above : bound ≤ num / den := (Nat.le_div_iff_mul_le positive).mpr large
  simp only [roundHalfEven]
  split
  · exact above
  · split <;> omega

/-- A rounded quotient exceeds the quotient by one half at most. -/
theorem roundHalfEven_le_add_half (num : Nat) (positive : 0 < den) :
    (roundHalfEven num den : ℚ) ≤ (num : ℚ) / den + 1 / 2 := by
  have whole : 2 * (den * roundHalfEven num den) ≤ 2 * num + den := by
    have split := Nat.div_add_mod num den
    have rest := Nat.mod_lt num positive
    simp only [roundHalfEven]
    split
    · omega
    · split
      · rw [Nat.mul_add]
        omega
      · rw [Nat.mul_add]
        have half : num / den % 2 ≤ 1 := by omega
        have bounded : den * (num / den % 2) ≤ den * 1 := Nat.mul_le_mul_left den half
        omega
  have cast : (2 * (den * roundHalfEven num den) : ℚ) ≤ 2 * num + den := by exact_mod_cast whole
  have denominator : (0 : ℚ) < den := by exact_mod_cast positive
  rw [div_add_div _ _ denominator.ne' two_ne_zero, le_div_iff₀ (by positivity)]
  linarith

/-! ### Units -/

theorem unitDen_pos (positive : 0 < den) (e : Int) : 0 < unitDen den e := by
  simp only [unitDen, Nat.pow_eq]
  split <;> positivity

/-- In units of `2 ^ e`. -/
theorem unit_div (num den : Nat) (e : Int) : (unitNum num e : ℚ) / unitDen den e = (num : ℚ) / den / 2 ^ e := by
  simp only [unitNum, unitDen, Nat.pow_eq]
  split
  · obtain ⟨n, rfl⟩ : ∃ n : Nat, e = -n := ⟨e.natAbs, by omega⟩
    simp only [Int.natAbs_neg, Int.natAbs_natCast, Nat.cast_mul, Nat.cast_pow, Nat.cast_ofNat, zpow_neg, zpow_natCast]
    field_simp
  · obtain ⟨n, rfl⟩ : ∃ n : Nat, e = n := ⟨e.natAbs, by omega⟩
    simp only [Int.natAbs_natCast, Nat.cast_mul, Nat.cast_pow, Nat.cast_ofNat, zpow_natCast]
    rw [div_div]

/-- The quotient lies between two powers of two, by the bits of its parts. -/
theorem quotient_bounds (numerator : 0 < num) (denominator : 0 < den) :
    (2 : ℚ) ^ ((Nat.log2 num : Int) - Nat.log2 den - 1) < (num : ℚ) / den ∧
      (num : ℚ) / den < 2 ^ ((Nat.log2 num : Int) - Nat.log2 den + 1) := by
  have numLow : (2 : ℚ) ^ (Nat.log2 num : Int) ≤ num := by
    rw [zpow_natCast]
    exact_mod_cast Nat.log2_self_le numerator.ne'
  have numHigh : (num : ℚ) < 2 ^ ((Nat.log2 num : Int) + 1) := by
    have high : num < 2 ^ (Nat.log2 num + 1) := Nat.lt_log2_self
    exact_mod_cast high
  have denLow : (2 : ℚ) ^ (Nat.log2 den : Int) ≤ den := by
    rw [zpow_natCast]
    exact_mod_cast Nat.log2_self_le denominator.ne'
  have denHigh : (den : ℚ) < 2 ^ ((Nat.log2 den : Int) + 1) := by
    have high : den < 2 ^ (Nat.log2 den + 1) := Nat.lt_log2_self
    exact_mod_cast high
  have positive : (0 : ℚ) < den := by exact_mod_cast denominator
  have low : (0 : ℚ) < 2 ^ (Nat.log2 den : Int) := by positivity
  constructor
  · rw [lt_div_iff₀ positive]
    calc (2 : ℚ) ^ ((Nat.log2 num : Int) - Nat.log2 den - 1) * den
        < 2 ^ ((Nat.log2 num : Int) - Nat.log2 den - 1) * 2 ^ ((Nat.log2 den : Int) + 1) := by gcongr
      _ = 2 ^ (Nat.log2 num : Int) := by
          rw [← zpow_add₀ two_ne_zero]
          congr 1
          ring
      _ ≤ num := numLow
  · rw [div_lt_iff₀ positive]
    calc (num : ℚ) < 2 ^ ((Nat.log2 num : Int) + 1) := numHigh
      _ = 2 ^ ((Nat.log2 num : Int) - Nat.log2 den + 1) * 2 ^ (Nat.log2 den : Int) := by
          rw [← zpow_add₀ two_ne_zero]
          congr 1
          ring
      _ ≤ 2 ^ ((Nat.log2 num : Int) - Nat.log2 den + 1) * den := by gcongr

/-- The exponent of the unit before it is held above the smallest one. -/
theorem exists_unit (proper : 1 ≤ f.precision) (numerator : 0 < num) (denominator : 0 < den) :
    ∃ e, unitExponent f num den = (if e < f.minExponent then f.minExponent else e) ∧
      (2 : ℚ) ^ (f.precision - 1) * 2 ^ e ≤ (num : ℚ) / den ∧ (num : ℚ) / den < 2 ^ f.precision * 2 ^ e := by
  obtain ⟨low, high⟩ := quotient_bounds numerator denominator
  generalize difference : (Nat.log2 num : Int) - Nat.log2 den = d at low high
  obtain ⟨p, precision⟩ : ∃ p, f.precision = p + 1 := ⟨f.precision - 1, by omega⟩
  have top : (Nat.log2 num : Int) - Nat.log2 den + 1 - f.precision = d - p := by omega
  have floor := unit_div num den (d - p)
  have positive : (0 : ℚ) < unitDen den (d - p) := by exact_mod_cast unitDen_pos denominator _
  have unit : (0 : ℚ) < 2 ^ (d - p : Int) := by positivity
  refine ⟨_, rfl, ?_⟩
  rw [top, precision, Nat.add_sub_cancel]
  split
  · rename_i short
    rw [Nat.div_lt_iff_lt_mul (unitDen_pos denominator _)] at short
    have cast : (unitNum num (d - p) : ℚ) < 2 ^ p * unitDen den (d - p) := by exact_mod_cast short
    rw [← div_lt_iff₀ positive, floor, div_lt_iff₀ unit] at cast
    constructor
    · calc (2 : ℚ) ^ p * 2 ^ (d - p - 1) = 2 ^ (d - 1) := by
            rw [← zpow_natCast, ← zpow_add₀ two_ne_zero]
            congr 1
            ring
        _ ≤ (num : ℚ) / den := low.le
    · calc (num : ℚ) / den < 2 ^ p * 2 ^ (d - p) := cast
        _ = 2 ^ (p + 1) * 2 ^ (d - p - 1) := by
            rw [← zpow_natCast, ← zpow_natCast, ← zpow_add₀ two_ne_zero, ← zpow_add₀ two_ne_zero]
            congr 1
            push_cast
            ring
  · rename_i long
    rw [Nat.not_lt, Nat.le_div_iff_mul_le (unitDen_pos denominator _)] at long
    have cast : (2 ^ p * unitDen den (d - p) : ℚ) ≤ unitNum num (d - p) := by exact_mod_cast long
    rw [← le_div_iff₀ positive, floor, le_div_iff₀ unit] at cast
    refine ⟨cast, ?_⟩
    calc (num : ℚ) / den < 2 ^ (d + 1) := high
      _ = 2 ^ (p + 1) * 2 ^ (d - p) := by
          rw [← zpow_natCast, ← zpow_add₀ two_ne_zero]
          congr 1
          push_cast
          ring

/-- The quotient has at most as many bits as the format allows. -/
theorem lt_unit (proper : 1 ≤ f.precision) (numerator : 0 < num) (denominator : 0 < den) :
    (num : ℚ) / den < 2 ^ f.precision * 2 ^ unitExponent f num den := by
  obtain ⟨e, unit, _, high⟩ := exists_unit proper numerator denominator
  rw [unit]
  split
  · rename_i clamped
    calc (num : ℚ) / den < 2 ^ f.precision * 2 ^ e := high
      _ ≤ 2 ^ f.precision * 2 ^ f.minExponent := by
          gcongr
          exact one_le_two
  · exact high

/-- The quotient has as many bits as the format allows, unless the unit is the smallest one. -/
theorem unit_le (proper : 1 ≤ f.precision) (numerator : 0 < num) (denominator : 0 < den)
    (normal : unitExponent f num den ≠ f.minExponent) :
    (2 : ℚ) ^ (f.precision - 1) * 2 ^ unitExponent f num den ≤ (num : ℚ) / den := by
  obtain ⟨e, unit, low, _⟩ := exists_unit proper numerator denominator
  rw [unit] at normal ⊢
  split at normal
  · exact absurd rfl normal
  · rename_i free
    rw [if_neg free]
    exact low

/-! ### Results -/

namespace Binary

/-- The absolute value. -/
def value (x : Binary) : ℚ :=
  x.mantissa * 2 ^ x.exponent

/-- A number of a format. -/
def Fits (f : Format) (x : Binary) : Prop :=
  x.mantissa < 2 ^ f.precision ∧ x.exponent ≤ f.maxExponent

theorem den_pos (x : Binary) : 0 < x.den := by
  simp only [den, Nat.pow_eq]
  split <;> positivity

theorem num_div_den (x : Binary) : (x.num : ℚ) / x.den = x.value := by
  have units := unit_div x.mantissa 1 (-x.exponent)
  unfold num den value
  split
  · obtain ⟨n, exponent⟩ : ∃ n : Nat, x.exponent = -n := ⟨x.exponent.natAbs, by omega⟩
    simp [exponent, div_eq_mul_inv]
  · obtain ⟨n, exponent⟩ : ∃ n : Nat, x.exponent = n := ⟨x.exponent.natAbs, by omega⟩
    simp [exponent]

theorem value_nonneg (x : Binary) : 0 ≤ x.value := by
  unfold value
  positivity

end Binary

/-- The largest number of a format. -/
def Format.greatest (f : Format) : ℚ :=
  (2 ^ f.precision - 1) * 2 ^ f.maxExponent

theorem value_le_greatest (fits : x.Fits f) : x.value ≤ f.greatest := by
  have mantissa : (x.mantissa : ℚ) ≤ 2 ^ f.precision - 1 := by
    have whole : x.mantissa + 1 ≤ 2 ^ f.precision := fits.1
    have cast : (x.mantissa : ℚ) + 1 ≤ 2 ^ f.precision := by exact_mod_cast whole
    linarith
  have exponent : (2 : ℚ) ^ x.exponent ≤ 2 ^ f.maxExponent := zpow_le_zpow_right₀ one_le_two fits.2
  unfold Binary.value Format.greatest
  gcongr
  exact (Nat.cast_nonneg _).trans mantissa

/-- The rounded mantissa has at most one bit too many. -/
theorem roundHalfEven_unit_le (proper : 1 ≤ f.precision) (numerator : 0 < num) (denominator : 0 < den) :
    roundHalfEven (unitNum num (unitExponent f num den)) (unitDen den (unitExponent f num den)) ≤ 2 ^ f.precision := by
  generalize exponent : unitExponent f num den = e
  have positive := unitDen_pos denominator e
  have cast : (0 : ℚ) < unitDen den e := by exact_mod_cast positive
  refine roundHalfEven_le positive ?_
  have high := lt_unit proper numerator denominator
  rw [exponent, ← div_lt_iff₀ (by positivity), ← unit_div, div_lt_iff₀ cast] at high
  exact_mod_cast high.le

/-- A quotient up to the largest number of the format does not overflow. -/
theorem isSome_round (proper : 1 ≤ f.precision) (range : f.minExponent ≤ f.maxExponent) (negative : Bool)
    (denominator : 0 < den) (small : (num : ℚ) / den ≤ f.greatest) : (round f negative num den).isSome = true := by
  by_cases nothing : num = 0
  · simp [round, nothing]
  · have numerator : 0 < num := Nat.pos_of_ne_zero nothing
    simp only [round, if_neg nothing, Nat.pow_eq]
    generalize exponent : unitExponent f num den = e
    split
    · rfl
    · have positive := unitDen_pos denominator e
      have cast : (0 : ℚ) < unitDen den e := by exact_mod_cast positive
      have unit : (0 : ℚ) < 2 ^ e := by positivity
      rw [if_neg]
      · rfl
      · split
        · rename_i full
          -- the quotient has less than a full mantissa in the largest unit
          intro large
          simp only at large
          have bounded : roundHalfEven (unitNum num e) (unitDen den e) ≤ 2 ^ f.precision - 1 := by
            refine roundHalfEven_le positive ?_
            have quotient : (num : ℚ) / den ≤ (2 ^ f.precision - 1) * 2 ^ e := by
              refine small.trans ?_
              have one : (1 : ℚ) ≤ 2 ^ f.precision := one_le_pow₀ one_le_two
              have exponents : (2 : ℚ) ^ f.maxExponent ≤ 2 ^ e := zpow_le_zpow_right₀ one_le_two (by omega)
              unfold Format.greatest
              gcongr
            rw [← div_le_iff₀ unit, ← unit_div, div_le_iff₀ cast] at quotient
            have one : 1 ≤ 2 ^ f.precision := Nat.one_le_two_pow
            have whole : ((2 ^ f.precision - 1 : ℕ) : ℚ) = 2 ^ f.precision - 1 := by push_cast [one]; rfl
            rw [← whole] at quotient
            exact_mod_cast quotient
          have one : 1 ≤ 2 ^ f.precision := Nat.one_le_two_pow
          omega
        · intro large
          simp only at large
          have low := unit_le proper numerator denominator (by omega)
          obtain ⟨p, precision⟩ : ∃ p, f.precision = p + 1 := ⟨f.precision - 1, by omega⟩
          have next : (2 : ℚ) ^ (f.maxExponent + 1) ≤ 2 ^ e := zpow_le_zpow_right₀ one_le_two (by omega)
          have top : (0 : ℚ) < 2 ^ f.maxExponent := by positivity
          rw [zpow_add_one₀ two_ne_zero] at next
          rw [exponent, precision, Nat.add_sub_cancel] at low
          have half : (0 : ℚ) < 2 ^ p := by positivity
          have above := mul_le_mul_of_nonneg_left next half.le
          unfold Format.greatest at small
          rw [precision, pow_succ] at small
          linarith

/-- A rounded quotient is a number of the format. -/
theorem fits_round (proper : 1 ≤ f.precision) (range : f.minExponent ≤ f.maxExponent) (denominator : 0 < den)
    (rounded : round f negative num den = some r) : r.Fits f := by
  by_cases nothing : num = 0
  · simp only [round, if_pos nothing, Option.some.injEq] at rounded
    subst rounded
    exact ⟨by simp [zero], range⟩
  · have bounded := roundHalfEven_unit_le proper (Nat.pos_of_ne_zero nothing) denominator
    simp only [round, if_neg nothing, Nat.pow_eq] at rounded
    generalize roundHalfEven _ _ = m at rounded bounded
    split at rounded
    · cases rounded
      exact ⟨by simp [zero], range⟩
    · have positive : 0 < 2 ^ f.precision := by positivity
      by_cases full : m = 2 ^ f.precision
      · simp only [if_pos full] at rounded
        split at rounded
        · cases rounded
        · rename_i small
          cases rounded
          refine ⟨?_, by simp only; omega⟩
          simp only [full]
          omega
      · simp only [if_neg full] at rounded
        split at rounded
        · cases rounded
        · rename_i small
          cases rounded
          exact ⟨by simp only; omega, by simp only; omega⟩

/-- A rounded quotient is the rounded mantissa in the unit, also where the mantissa is carried into the next one. -/
theorem value_round (proper : 1 ≤ f.precision) (numerator : 0 < num) (rounded : round f negative num den = some r) :
    r.value = roundHalfEven (unitNum num (unitExponent f num den)) (unitDen den (unitExponent f num den)) *
      2 ^ unitExponent f num den := by
  simp only [round, if_neg numerator.ne', Nat.pow_eq] at rounded
  generalize unitExponent f num den = e at rounded
  generalize roundHalfEven _ _ = m at rounded
  split at rounded
  · rename_i nothing
    cases rounded
    simp [zero, Binary.value, nothing]
  · by_cases full : m = 2 ^ f.precision
    · simp only [if_pos full] at rounded
      split at rounded
      · cases rounded
      · cases rounded
        have even : m / 2 * 2 = m := by
          obtain ⟨p, precision⟩ : ∃ p, f.precision = p + 1 := ⟨f.precision - 1, by omega⟩
          rw [full, precision, pow_succ]
          simp
        have cast : ((m / 2 : ℕ) : ℚ) * 2 = m := by exact_mod_cast even
        simp only [Binary.value]
        rw [zpow_add_one₀ two_ne_zero, ← cast]
        ring
    · simp only [if_neg full] at rounded
      split at rounded
      · cases rounded
      · cases rounded
        rfl

/-- A rounded quotient exceeds the quotient by half a unit at most. -/
theorem value_round_le (proper : 1 ≤ f.precision) (numerator : 0 < num) (denominator : 0 < den)
    (normal : (2 : ℚ) ^ (f.precision - 1) * 2 ^ f.minExponent ≤ (num : ℚ) / den)
    (rounded : round f negative num den = some r) : r.value ≤ (num : ℚ) / den * (1 + 1 / 2 ^ f.precision) := by
  obtain ⟨p, precision⟩ : ∃ p, f.precision = p + 1 := ⟨f.precision - 1, by omega⟩
  have low : (2 : ℚ) ^ p * 2 ^ unitExponent f num den ≤ (num : ℚ) / den := by
    rw [precision, Nat.add_sub_cancel] at normal
    by_cases least : unitExponent f num den = f.minExponent
    · rwa [least]
    · have above := unit_le proper numerator denominator least
      rwa [precision, Nat.add_sub_cancel] at above
  rw [value_round proper numerator rounded]
  generalize unitExponent f num den = e at low
  have nearest := roundHalfEven_le_add_half (unitNum num e) (unitDen_pos denominator e)
  rw [unit_div] at nearest
  have unit : (0 : ℚ) < 2 ^ e := by positivity
  have scaled := mul_le_mul_of_nonneg_right nearest unit.le
  rw [add_mul, div_mul_cancel₀ _ unit.ne'] at scaled
  have share : 1 / 2 * 2 ^ e ≤ (num : ℚ) / den * (1 / 2 ^ (p + 1)) := by
    have half : (0 : ℚ) < 2 ^ p := by positivity
    rw [mul_one_div, le_div_iff₀ (by positivity), pow_succ]
    linarith
  rw [precision, mul_add, mul_one]
  linarith

/-- A quotient from one on is not rounded below one. -/
theorem one_le_value_round (proper : 1 ≤ f.precision) (tiny : f.minExponent < 0) (denominator : 0 < den)
    (large : den ≤ num) (rounded : round f negative num den = some r) : 1 ≤ r.value := by
  have numerator : 0 < num := Nat.lt_of_lt_of_le denominator large
  have bits := unit_le proper numerator denominator
  rw [value_round proper numerator rounded]
  generalize unitExponent f num den = e at bits
  by_cases below : e < 0
  · have whole : 2 ^ e.natAbs * unitDen den e ≤ unitNum num e := by
      simp only [unitNum, unitDen, if_pos below]
      rw [Nat.mul_comm]
      exact Nat.mul_le_mul_right _ large
    have cast : ((2 ^ e.natAbs : ℕ) : ℚ) ≤ roundHalfEven (unitNum num e) (unitDen den e) :=
      Nat.cast_le.mpr (le_roundHalfEven (unitDen_pos denominator e) whole)
    calc (1 : ℚ) = (2 ^ e.natAbs : ℕ) * 2 ^ e := by
          rw [Nat.cast_pow, Nat.cast_ofNat, ← zpow_natCast, ← zpow_add₀ two_ne_zero,
            show (e.natAbs : Int) + e = 0 by omega, zpow_zero]
      _ ≤ roundHalfEven (unitNum num e) (unitDen den e) * 2 ^ e := by gcongr
  · have unit : (1 : ℚ) ≤ 2 ^ e := one_le_zpow₀ one_le_two (by omega)
    have positive : (0 : ℚ) < unitDen den e := by exact_mod_cast unitDen_pos denominator e
    have share : (1 : ℚ) ≤ (unitNum num e : ℚ) / unitDen den e := by
      rw [unit_div, le_div_iff₀ (by positivity)]
      calc (1 : ℚ) * 2 ^ e ≤ 2 ^ (f.precision - 1) * 2 ^ e := by
            gcongr
            exact one_le_pow₀ one_le_two
        _ ≤ (num : ℚ) / den := bits (by omega)
    rw [le_div_iff₀ positive] at share
    have whole : 1 * unitDen den e ≤ unitNum num e := by exact_mod_cast share
    have cast : ((1 : ℕ) : ℚ) ≤ roundHalfEven (unitNum num e) (unitDen den e) :=
      Nat.cast_le.mpr (le_roundHalfEven (unitDen_pos denominator e) whole)
    rw [Nat.cast_one] at cast
    calc (1 : ℚ) = 1 * 1 := (one_mul 1).symm
      _ ≤ roundHalfEven (unitNum num e) (unitDen den e) * 2 ^ e := by gcongr

end DeviceTwin.Number
