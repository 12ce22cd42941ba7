import DeviceTwin.Proofs.Number.Rounding

/-!
Numbers of 64 bits from decimals. A decimal with a negative exponent never overflows (`isSome_ofDecimalParts_neg`), and
another one does not when it is a little below the largest number (`isSome_ofDecimalParts`): its significand and the
power of ten are rounded before they are multiplied, and each rounding may add a share of `1 / 2 ^ 53`.
-/
namespace DeviceTwin.Number

variable {negative : Bool} {significand n : Nat} {exponent : Int} {x y p : Binary}

theorem one_le_precision_double : 1 ≤ double.precision := by decide

theorem range_double : double.minExponent ≤ double.maxExponent := by decide

theorem greatest_double : double.greatest = (2 ^ 53 - 1) * 2 ^ 971 := by
  rw [← zpow_natCast]
  rfl

/-- Quotients from one on are not rounded in the smallest unit. -/
theorem normal_double {q : ℚ} (large : 1 ≤ q) : (2 : ℚ) ^ (double.precision - 1) * 2 ^ double.minExponent ≤ q := by
  refine le_trans ?_ large
  calc (2 : ℚ) ^ (double.precision - 1) * 2 ^ double.minExponent = 2 ^ (-1022 : ℤ) := by
        rw [← zpow_natCast, ← zpow_add₀ two_ne_zero]
        rfl
    _ ≤ 2 ^ (0 : ℤ) := zpow_le_zpow_right₀ one_le_two (by decide)
    _ = 1 := zpow_zero 2

/-- The powers of ten are rounded to numbers from one on, with a share of `1 / 2 ^ 53` at most. -/
theorem powerOfTen_spec (small : n ≤ maxPowerOfTen) :
    ∃ p, powerOfTen n = some p ∧ 1 ≤ p.value ∧ p.value ≤ 10 ^ n * (1 + 1 / 2 ^ 53) := by
  have quotient : ((10 ^ n : ℕ) : ℚ) / (1 : ℕ) = 10 ^ n := by simp
  have one : (1 : ℚ) ≤ 10 ^ n := one_le_pow₀ (by norm_num)
  have largest : 10 ^ maxPowerOfTen ≤ (2 ^ 53 - 1) * 2 ^ 971 := by decide +kernel
  have whole : 10 ^ n ≤ (2 ^ 53 - 1) * 2 ^ 971 := (Nat.pow_le_pow_right (by decide) small).trans largest
  have some_ : (round double false (10 ^ n) 1).isSome = true := by
    refine isSome_round one_le_precision_double range_double _ Nat.one_pos ?_
    rw [quotient, greatest_double]
    calc (10 : ℚ) ^ n = (10 ^ n : ℕ) := by push_cast; rfl
      _ ≤ ((2 ^ 53 - 1) * 2 ^ 971 : ℕ) := Nat.cast_le.mpr whole
      _ = (2 ^ 53 - 1) * 2 ^ 971 := by
          rw [Nat.cast_mul, Nat.cast_pow, Nat.cast_ofNat]
          congr 1
          norm_num
  obtain ⟨p, rounded⟩ := Option.isSome_iff_exists.mp some_
  have positive : 0 < 10 ^ n := by positivity
  refine ⟨p, rounded, one_le_value_round one_le_precision_double (by decide) Nat.one_pos positive rounded, ?_⟩
  have share := value_round_le one_le_precision_double positive Nat.one_pos (normal_double (by rwa [quotient])) rounded
  rwa [quotient] at share

theorem num_pos (positive : 0 < x.value) : 0 < x.num := by
  by_contra nothing
  have zero : x.num = 0 := by omega
  rw [← x.num_div_den, zero, Nat.cast_zero, zero_div] at positive
  exact lt_irrefl 0 positive

/-- A significand of 64 bits is rounded with a share of `1 / 2 ^ 53` at most. -/
theorem ofInt_spec (small : significand < 2 ^ 64) :
    ∃ x, ofInt double significand = some x ∧ x.Fits double ∧ x.value ≤ significand * (1 + 1 / 2 ^ 53) := by
  have quotient : ((significand : ℕ) : ℚ) / (1 : ℕ) = significand := by simp
  have bounded : (significand : ℚ) < 2 ^ 64 := by exact_mod_cast small
  have some_ : (round double (decide ((significand : Int) < 0)) significand 1).isSome = true := by
    refine isSome_round one_le_precision_double range_double _ Nat.one_pos ?_
    rw [quotient, greatest_double]
    calc (significand : ℚ) ≤ 1 * 2 ^ 64 := by linarith
      _ ≤ (2 ^ 53 - 1) * 2 ^ 971 := by
          gcongr
          · norm_num
          · exact one_le_two
          · decide
  obtain ⟨x, rounded⟩ := Option.isSome_iff_exists.mp some_
  refine ⟨x, rounded, fits_round one_le_precision_double range_double Nat.one_pos rounded, ?_⟩
  by_cases nothing : significand = 0
  · simp only [round, if_pos nothing, Option.some.injEq] at rounded
    subst rounded nothing
    simp [zero, Binary.value]
  · have positive : 0 < significand := Nat.pos_of_ne_zero nothing
    have large : (1 : ℚ) ≤ significand := by exact_mod_cast positive
    have share := value_round_le one_le_precision_double positive Nat.one_pos
      (normal_double (by rwa [quotient])) rounded
    rwa [quotient] at share

theorem isSome_mul (small : x.value * y.value ≤ double.greatest) : (x.mul double y).isSome = true := by
  refine isSome_round one_le_precision_double range_double _ (Nat.mul_pos x.den_pos y.den_pos) ?_
  rwa [Nat.cast_mul, Nat.cast_mul, mul_div_mul_comm, x.num_div_den, y.num_div_den]

theorem div_spec (fits : x.Fits double) (large : 1 ≤ y.value) :
    ∃ r, x.div double y = some r ∧ r.Fits double := by
  have denominator : 0 < x.den * y.num := Nat.mul_pos x.den_pos (num_pos (by linarith))
  have some_ : (x.div double y).isSome = true := by
    refine isSome_round one_le_precision_double range_double _ denominator ?_
    rw [Nat.cast_mul, Nat.cast_mul, mul_div_mul_comm, ← inv_div (y.num : ℚ), x.num_div_den, y.num_div_den,
      ← div_eq_mul_inv]
    exact (div_le_self x.value_nonneg large).trans (value_le_greatest fits)
  obtain ⟨r, rounded⟩ := Option.isSome_iff_exists.mp some_
  exact ⟨r, rounded, fits_round one_le_precision_double range_double denominator rounded⟩

theorem scaleDown_spec (steps : Nat) (fits : x.Fits double) :
    (scaleDown steps x n).1.Fits double ∧ (scaleDown steps x n).2 ≤ maxPowerOfTen := by
  induction steps generalizing x n with
  | zero => exact ⟨⟨by simp [scaleDown, zero], range_double⟩, Nat.zero_le _⟩
  | succ steps ih =>
    by_cases small : n ≤ maxPowerOfTen
    · simpa [scaleDown, small] using fits
    · by_cases nothing : x.isZero = true
      · simpa [scaleDown, small, nothing] using fits
      · obtain ⟨p, power, large, _⟩ := powerOfTen_spec (Nat.le_refl maxPowerOfTen)
        obtain ⟨r, quotient, fits'⟩ := div_spec fits large
        simpa [scaleDown, small, nothing, power, quotient] using ih fits'

/-- A decimal with a negative exponent is the quotient by a power of ten. -/
theorem isSome_ofDecimalParts_neg (negative : Bool) (small : significand < 2 ^ 64) (below : exponent < 0) :
    (ofDecimalParts negative significand exponent).isSome = true := by
  obtain ⟨x, rounded, fits, _⟩ := ofInt_spec small
  obtain ⟨fits', small'⟩ := scaleDown_spec (n := exponent.natAbs) 4 fits
  obtain ⟨p, power, large, _⟩ := powerOfTen_spec small'
  obtain ⟨r, quotient, _⟩ := div_spec fits' large
  have sign : ¬ 0 ≤ exponent := by omega
  simp [ofDecimalParts, rounded, sign, power, quotient]

/-- A decimal does not overflow up to a few units below the largest number. -/
theorem isSome_ofDecimalParts (negative : Bool) (small : significand < 2 ^ 64) (above : 0 ≤ exponent)
    (bounded : (significand : ℚ) * 10 ^ exponent.natAbs ≤ (2 ^ 54 - 7) * 2 ^ 970) :
    (ofDecimalParts negative significand exponent).isSome = true := by
  obtain ⟨x, rounded, _, share⟩ := ofInt_spec small
  by_cases inside : exponent.natAbs ≤ maxPowerOfTen
  · obtain ⟨p, power, large, share'⟩ := powerOfTen_spec inside
    have product : (x.mul double p).isSome = true := by
      refine isSome_mul ?_
      calc x.value * p.value
          ≤ (significand * (1 + 1 / 2 ^ 53)) * (10 ^ exponent.natAbs * (1 + 1 / 2 ^ 53)) := by
            gcongr
        _ = significand * 10 ^ exponent.natAbs * (1 + 1 / 2 ^ 53) ^ 2 := by ring
        _ ≤ (2 ^ 54 - 7) * 2 ^ 970 * (1 + 1 / 2 ^ 53) ^ 2 := by gcongr
        _ ≤ double.greatest := by
            have unit : (0 : ℚ) < 2 ^ 970 := by positivity
            have next : (2 : ℚ) ^ 971 = 2 ^ 970 * 2 := pow_succ 2 970
            rw [greatest_double, next]
            generalize (2 : ℚ) ^ 970 = u at unit
            norm_num
            linarith
    obtain ⟨r, product⟩ := Option.isSome_iff_exists.mp product
    simp [ofDecimalParts, rounded, above, inside, power, product]
  · have nothing : significand = 0 := by
      by_contra something
      have positive : 0 < significand := Nat.pos_of_ne_zero something
      have one : (1 : ℚ) ≤ significand := by exact_mod_cast positive
      have huge : (10 : ℚ) ^ 309 ≤ 10 ^ exponent.natAbs :=
        pow_le_pow_right₀ (by norm_num) (by unfold maxPowerOfTen at inside; omega)
      have least : (10 : ℚ) ^ 309 ≤ (2 ^ 54 - 7) * 2 ^ 970 := by
        refine le_trans ?_ bounded
        calc (10 : ℚ) ^ 309 ≤ 10 ^ exponent.natAbs := huge
          _ = 1 * 10 ^ exponent.natAbs := (one_mul _).symm
          _ ≤ significand * 10 ^ exponent.natAbs := by gcongr
      have less : 2 ^ 54 * 2 ^ 970 < 10 ^ 309 + 7 * 2 ^ 970 := by decide +kernel
      have cast : (2 : ℚ) ^ 54 * 2 ^ 970 < 10 ^ 309 + 7 * 2 ^ 970 := by exact_mod_cast less
      rw [sub_mul] at least
      exact absurd (sub_lt_iff_lt_add.mpr cast) (not_lt.mpr least)
    have zero : x.isZero = true := by
      simp only [ofInt, nothing, round] at rounded
      cases rounded
      rfl
    simp [ofDecimalParts, rounded, above, inside, zero]

theorem fits_ofInt {k : Int} (rounded : ofInt double k = some x) : x.Fits double :=
  fits_round one_le_precision_double range_double Nat.one_pos rounded

/-- What a decimal is read as is a number of 64 bits. -/
theorem fits_ofDecimalParts (parts : ofDecimalParts negative significand exponent = some x) : x.Fits double := by
  simp only [ofDecimalParts, Option.bind_eq_bind, Option.pure_def] at parts
  obtain ⟨y, rounded, scaled⟩ := Option.bind_eq_some_iff.mp parts
  have fits := fits_ofInt rounded
  split at scaled
  · split at scaled
    · obtain ⟨p, power, scaled⟩ := Option.bind_eq_some_iff.mp scaled
      obtain ⟨r, product, same⟩ := Option.bind_eq_some_iff.mp scaled
      cases same
      have result : r.Fits double :=
        fits_round one_le_precision_double range_double (Nat.mul_pos y.den_pos p.den_pos) product
      exact result
    · split at scaled
      · cases scaled
        exact fits
      · cases scaled
  · obtain ⟨p, power, scaled⟩ := Option.bind_eq_some_iff.mp scaled
    obtain ⟨r, quotient, same⟩ := Option.bind_eq_some_iff.mp scaled
    cases same
    obtain ⟨fits', small⟩ := scaleDown_spec (n := exponent.natAbs) 4 fits
    obtain ⟨p', power', large, _⟩ := powerOfTen_spec small
    obtain ⟨r', quotient', result⟩ := div_spec fits' large
    cases power.symm.trans power'
    cases quotient.symm.trans quotient'
    exact result

end DeviceTwin.Number
