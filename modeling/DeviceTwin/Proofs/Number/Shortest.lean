import DeviceTwin.Number.Shortest
import DeviceTwin.Proofs.Number.Rounding
import DeviceTwin.Proofs.Text.Numeral

/-!
The shortest decimal of a number. It has a digit (`shortest_pos`), and it is not larger than the number by more than
half a unit (`shortest_le`).
-/
namespace DeviceTwin.Number
open DeviceTwin.Text

variable {f : Format} {x : Binary} {i : Interval} {a d : Nat} {e k : Int}

/-! ### Scales -/

/-- What a power contributes to a numerator, with what it contributes to a denominator. -/
theorem scale_eq (b : Nat) (positive : 0 < b) (e : Int) :
    ((if e < 0 then 1 else b ^ e.natAbs : ℕ) : ℚ) = b ^ e * ((if e < 0 then b ^ e.natAbs else 1 : ℕ) : ℚ) := by
  have nonzero : (b : ℚ) ≠ 0 := by exact_mod_cast positive.ne'
  split
  · obtain ⟨n, rfl⟩ : ∃ n : Nat, e = -n := ⟨e.natAbs, by omega⟩
    simp [zpow_neg, nonzero]
  · obtain ⟨n, rfl⟩ : ∃ n : Nat, e = n := ⟨e.natAbs, by omega⟩
    simp

/-- The common denominator of `a * 2 ^ e` and `d * 10 ^ k`. -/
def commonDen (e k : Int) : Nat :=
  (if e < 0 then 2 ^ e.natAbs else 1) * if k < 0 then 10 ^ k.natAbs else 1

theorem commonDen_pos (e k : Int) : (0 : ℚ) < commonDen e k := by
  have positive : 0 < commonDen e k := by
    unfold commonDen
    split <;> split <;> positivity
  exact_mod_cast positive

theorem left_eq (a : Nat) (e k : Int) :
    ((a * (if e < 0 then 1 else 2 ^ e.natAbs) * (if k < 0 then 10 ^ k.natAbs else 1) : ℕ) : ℚ) =
      a * 2 ^ e * commonDen e k := by
  have scale := scale_eq 2 (by decide) e
  rw [Nat.cast_mul, Nat.cast_mul, scale, commonDen, Nat.cast_mul]
  push_cast
  ring

theorem right_eq (d : Nat) (e k : Int) :
    ((d * (if k < 0 then 1 else 10 ^ k.natAbs) * (if e < 0 then 2 ^ e.natAbs else 1) : ℕ) : ℚ) =
      d * 10 ^ k * commonDen e k := by
  have scale := scale_eq 10 (by decide) k
  rw [Nat.cast_mul, Nat.cast_mul, scale, commonDen, Nat.cast_mul]
  push_cast
  ring

theorem le_of_compareScaled_ne_lt (above : compareScaled a e d k ≠ .lt) : (d : ℚ) * 10 ^ k ≤ a * 2 ^ e := by
  have whole := Nat.not_lt.mp (mt compare_lt_iff_lt.mpr above)
  simp only [Nat.pow_eq] at whole
  have cast : ((_ : ℕ) : ℚ) ≤ ((_ : ℕ) : ℚ) := Nat.cast_le.mpr whole
  rw [left_eq, right_eq] at cast
  exact le_of_mul_le_mul_right cast (commonDen_pos e k)

theorem le_of_compareScaled_ne_gt (below : compareScaled a e d k ≠ .gt) : (a : ℚ) * 2 ^ e ≤ d * 10 ^ k := by
  have whole := Nat.not_lt.mp (mt compare_gt_iff_gt.mpr below)
  simp only [Nat.pow_eq] at whole
  have cast : ((_ : ℕ) : ℚ) ≤ ((_ : ℕ) : ℚ) := Nat.cast_le.mpr whole
  rw [left_eq, right_eq] at cast
  exact le_of_mul_le_mul_right cast (commonDen_pos e k)

theorem gridFloor_le (a : Nat) (e k : Int) : (gridFloor a e k : ℚ) * 10 ^ k ≤ a * 2 ^ e := by
  have whole := Nat.div_mul_le_self (a * (if e < 0 then 1 else 2 ^ e.natAbs) * (if k < 0 then 10 ^ k.natAbs else 1))
    ((if k < 0 then 1 else 10 ^ k.natAbs) * (if e < 0 then 2 ^ e.natAbs else 1))
  rw [← Nat.mul_assoc] at whole
  have cast : ((_ : ℕ) : ℚ) ≤ ((_ : ℕ) : ℚ) := Nat.cast_le.mpr whole
  rw [left_eq, right_eq] at cast
  exact le_of_mul_le_mul_right cast (commonDen_pos e k)

theorem gridFloor_pos (large : (10 : ℚ) ^ k ≤ a * 2 ^ e) : 0 < gridFloor a e k := by
  have one := right_eq 1 e k
  refine Nat.div_pos ?_ ?_
  · have cast : (((if k < 0 then 1 else 10 ^ k.natAbs) * (if e < 0 then 2 ^ e.natAbs else 1) : ℕ) : ℚ) ≤
        (a * (if e < 0 then 1 else 2 ^ e.natAbs) * (if k < 0 then 10 ^ k.natAbs else 1) : ℕ) := by
      rw [left_eq, ← Nat.one_mul (ite (k < 0) _ _), right_eq, Nat.cast_one, one_mul]
      exact mul_le_mul_of_nonneg_right large (commonDen_pos e k).le
    exact_mod_cast cast
  · simp only [Nat.pow_eq]
    split <;> split <;> positivity

/-! ### The search -/

theorem Interval.contains_spec (inside : i.contains d k = true) :
    (i.low : ℚ) * 2 ^ i.exponent ≤ d * 10 ^ k ∧ (d : ℚ) * 10 ^ k ≤ i.high * 2 ^ i.exponent := by
  unfold Interval.contains at inside
  constructor
  · refine le_of_compareScaled_ne_gt fun above => ?_
    simp [above] at inside
  · refine le_of_compareScaled_ne_lt fun below => ?_
    simp [below] at inside

theorem Interval.gridPoint?_spec (found : i.gridPoint? k = some d) : i.contains d k = true := by
  simp only [Interval.gridPoint?] at found
  split at found
  · rename_i inside _
    cases found
    exact inside
  · rename_i inside
    cases found
    exact inside
  · cases found
  · rename_i inside next
    split at found
    · cases found
      exact inside
    · cases found
      exact next
    · cases found
      rcases Nat.mod_two_eq_zero_or_one (gridFloor i.middle i.exponent k) with even | odd
      · rwa [even, Nat.add_zero]
      · rwa [odd]

/-- The search ends within the bounds above, and at a digit if the interval is positive and the last grid is fine. -/
theorem Interval.search_spec (steps : Nat) (middle : i.middle ≤ i.high) :
    ((i.search steps k).digits : ℚ) * 10 ^ (i.search steps k).exponent ≤ i.high * 2 ^ i.exponent ∧
      (0 < i.low → (10 : ℚ) ^ (k - steps) ≤ i.middle * 2 ^ i.exponent → 0 < (i.search steps k).digits) := by
  induction steps generalizing k with
  | zero =>
    refine ⟨(gridFloor_le _ _ _).trans ?_, fun _ fine => gridFloor_pos (by simpa using fine)⟩
    have cast : (i.middle : ℚ) ≤ i.high := by exact_mod_cast middle
    gcongr
  | succ steps ih =>
    cases found : i.gridPoint? k with
    | none =>
      obtain ⟨bounded, positive⟩ := ih (k := k - 1)
      simp only [Interval.search, found]
      refine ⟨bounded, fun low fine => positive low ?_⟩
      rwa [show k - 1 - (steps : Int) = k - (steps + 1 : ℕ) by omega]
    | some d =>
      obtain ⟨above, below⟩ := Interval.contains_spec (Interval.gridPoint?_spec found)
      simp only [Interval.search, found]
      refine ⟨below, fun low _ => ?_⟩
      by_contra nothing
      have zero : d = 0 := by omega
      have positive : (0 : ℚ) < i.low * 2 ^ i.exponent := by positivity
      rw [zero, Nat.cast_zero, zero_mul] at above
      linarith

/-- The first grid of the search is at most two powers of ten above the number. -/
theorem upperMagnitude_le (positive : 0 < x.num) : (10 : ℚ) ^ (upperMagnitude x - 2) ≤ x.value := by
  have denominator : (0 : ℚ) < x.den := by exact_mod_cast x.den_pos
  rw [← x.num_div_den, le_div_iff₀ denominator]
  unfold upperMagnitude
  split
  · rename_i large
    have quotient : 0 < x.num / x.den := Nat.div_pos large x.den_pos
    have low := pow_length_decimal_le quotient
    have floor := Nat.div_mul_le_self x.num x.den
    have whole : 10 ^ ((decimal (x.num / x.den)).length - 1) * x.den ≤ x.num :=
      (Nat.mul_le_mul_right _ low).trans floor
    have length : 0 < (decimal (x.num / x.den)).length := List.length_pos_iff.mpr (decimal_ne_nil _)
    calc (10 : ℚ) ^ (((decimal (x.num / x.den)).length : Int) - 2) * x.den
        ≤ 10 ^ ((((decimal (x.num / x.den)).length - 1 : ℕ) : Int)) * x.den := by
          gcongr
          · norm_num
          · omega
      _ ≤ x.num := by
          rw [zpow_natCast]
          exact_mod_cast whole
  · have high := lt_pow_length_decimal (x.den / x.num)
    rw [Nat.div_lt_iff_lt_mul positive] at high
    have cast : (x.den : ℚ) ≤ 10 ^ (decimal (x.den / x.num)).length * x.num := by exact_mod_cast high.le
    rw [sub_sub_cancel_left, zpow_neg, zpow_natCast, inv_mul_le_iff₀ (by positivity)]
    exact cast

/-! ### The shortest decimal -/

/-- The shortest decimal exceeds its number by half a unit at most. -/
theorem shortest_le (f : Format) (x : Binary) :
    ((shortest f x).digits : ℚ) * 10 ^ (shortest f x).exponent ≤ (x.mantissa + 1 / 2) * 2 ^ x.exponent := by
  refine (Interval.search_spec 20 (Nat.le_add_right _ _)).1.trans (le_of_eq ?_)
  simp only [interval]
  rw [zpow_sub₀ two_ne_zero]
  push_cast
  ring

theorem shortest_pos (f : Format) (positive : 0 < x.mantissa) : 0 < (shortest f x).digits := by
  have numerator : 0 < x.num := by
    simp only [Binary.num, Nat.pow_eq]
    split <;> positivity
  refine (Interval.search_spec 20 (Nat.le_add_right _ _)).2 ?_ ?_
  · simp only [interval]
    split <;> omega
  · calc (10 : ℚ) ^ (upperMagnitude x - (20 : ℕ)) ≤ 10 ^ (upperMagnitude x - 2) := by
          gcongr
          · norm_num
          · norm_num
      _ ≤ x.value := upperMagnitude_le numerator
      _ = (interval f x).middle * 2 ^ (interval f x).exponent := by
          simp only [interval, Binary.value]
          rw [zpow_sub₀ two_ne_zero]
          push_cast
          ring

end DeviceTwin.Number
