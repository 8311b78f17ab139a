import CheckedLiterals.Proofs.Binary.Order

namespace CheckedLiterals.Binary

/-!
# Where rounding overflows

The limit would be the next number above the greatest one.  What is rounded goes to an
infinity from the middle between the two on, for the middle itself is a tie that the
greatest number, whose significand is odd, does not win.
-/

namespace Format

variable {format : Format}

/-- The greatest finite number of units. -/
def greatest (format : Format) : Nat :=
  (2 ^ format.precision - 1) * 2 ^ (format.reach - format.precision)

/-- Where rounding begins to overflow: half a step below the limit. -/
def overflow (format : Format) : ℚ :=
  2 ^ (format.reach - format.scale) - 2 ^ (format.reach - format.scale - format.precision - 1)

theorem overflow_binary64 : overflow .binary64 = 2 ^ 1024 - 2 ^ 970 :=
  rfl

theorem fills_greatest (format : Format) :
    format.Fills (2 ^ format.precision - 1) (format.reach - format.precision) :=
  .inr (by cases format <;> decide)

theorem onGrid_greatest (format : Format) : format.OnGrid format.greatest :=
  onGrid_shifted (Nat.sub_le _ _) _

theorem not_even_significand_greatest (format : Format) :
    ¬Even (format.significand format.greatest) := by
  rw [greatest, significand_shifted (Nat.sub_one_lt (Nat.two_pow_pos _).ne') format.fills_greatest]
  cases format <;> decide

theorem greatest_add (format : Format) :
    format.greatest + 2 ^ (format.reach - format.precision) = format.limit := by
  have reach : format.reach = format.precision + (format.reach - format.precision) := by
    cases format <;> rfl
  rw [greatest, ← Nat.succ_mul, Nat.succ_eq_add_one, Nat.sub_add_cancel Nat.one_le_two_pow,
    ← Nat.pow_add, ← reach, limit_eq]

/-- The limit is the next grid point above the greatest number. -/
theorem greatest_add_spacing (format : Format) :
    format.greatest + format.spacing format.greatest = format.limit := by
  rw [← greatest_add, greatest, spacing_shifted (Nat.sub_one_lt (Nat.two_pow_pos _).ne')
    format.fills_greatest]

/-- The overflow is in the middle between the greatest number and the limit. -/
theorem overflow_middle (format : Format) :
    2 * (format.overflow * 2 ^ format.scale) = format.greatest + format.limit := by
  have whole : (format.limit : ℚ) = 2 ^ (format.reach - format.scale) * 2 ^ format.scale := by
    rw [limit_eq, Nat.cast_pow, Nat.cast_ofNat, ← pow_add]
    congr 1
    cases format <;> rfl
  have step : (2 ^ (format.reach - format.precision) : ℚ) =
      2 ^ (format.reach - format.scale - format.precision - 1) * 2 ^ format.scale * 2 := by
    rw [← pow_add, ← pow_succ]
    congr 1
    cases format <;> rfl
  have next : (format.greatest + 2 ^ (format.reach - format.precision) : ℚ) = format.limit := by
    exact_mod_cast format.greatest_add
  rw [overflow]
  linarith

/-- Rounding goes past the greatest number from the middle between it and the limit on. -/
theorem IsNearest.limit_le_iff
    {value : ℚ}
    {units : Nat}
    (nearest : format.IsNearest value units) :
    format.limit ≤ units ↔ (format.greatest + format.limit : ℚ) ≤ 2 * value := by
  have positive := format.spacing_pos format.greatest
  have next := format.greatest_add_spacing
  constructor
  · intro past
    have middle := nearest.middle_le format.onGrid_greatest (by omega)
    have : (format.limit : ℚ) ≤ units := Nat.cast_le.mpr past
    linarith
  · intro above
    by_contra within
    have middle := nearest.le_middle format.onGrid_limit (Nat.lt_of_not_le within)
    have atMost : units ≤ format.greatest := by
      by_contra past
      have step := format.onGrid_greatest.add_spacing_le nearest.onGrid (not_le.mp past)
      omega
    have atLeast : (format.greatest : ℚ) ≤ units := by linarith
    obtain rfl : units = format.greatest := le_antisymm atMost (Nat.cast_le.mp atLeast)
    -- Then the value is the middle, and such a tie is decided for the limit.
    refine format.not_even_significand_greatest
      (nearest.evenOnTie _ format.onGrid_limit (by omega) ?_)
    have ordered : (format.greatest : ℚ) < format.limit := Nat.cast_lt.mpr (by omega)
    rw [abs_of_neg (by linarith), abs_of_pos (by linarith)]
    linarith

end Format

variable
  {format : Format}
  {number : Binary format}

/-- What is nearest to a rational is finite just if the rational is below the overflow. -/
theorem IsNearestTo.isFinite_iff
    {value : ℚ}
    (nearest : number.IsNearestTo value) :
    number.isFinite = true ↔ |value| < format.overflow := by
  obtain ⟨negative, magnitude, nonneg, rfl, rounded⟩ := nearest
  have scaled : magnitude < format.overflow ↔
      ¬(format.greatest + format.limit : ℚ) ≤ 2 * (magnitude * 2 ^ format.scale) := by
    have unit : (0 : ℚ) < 2 ^ format.scale := by positivity
    rw [← format.overflow_middle, mul_le_mul_iff_right₀ zero_lt_two, mul_le_mul_iff_left₀ unit,
      not_le]
  rw [abs_ite_neg negative nonneg, scaled]
  cases number with
  | nan => exact rounded.elim
  | infinite sign =>
      obtain ⟨_, units, past, unitsNearest⟩ := rounded
      simp [isFinite, unitsNearest.limit_le_iff.mp past]
  | finite sign units represents =>
      rw [← rounded.2.limit_le_iff]
      simp [isFinite, represents.2]

/-- What is bounded by a power of two within the limit rounds to a finite number. -/
theorem IsNearestTo.isFinite
    {value : ℚ}
    {power : Nat}
    (nearest : number.IsNearestTo value)
    (bounded : |value| ≤ 2 ^ power)
    (room : power + format.scale < format.reach) :
    number.isFinite = true := by
  have unit : (0 : ℚ) < 2 ^ format.scale := by positivity
  have greatestPositive : (0 : ℚ) < format.greatest := by
    have : 0 < 2 ^ format.precision - 1 := by cases format <;> decide
    exact Nat.cast_pos.mpr (Nat.mul_pos this (Nat.two_pow_pos _))
  have within : 2 * (2 ^ power * 2 ^ format.scale : ℚ) ≤ format.limit := by
    have atMost : 2 ^ (power + format.scale + 1) ≤ format.limit := by
      rw [Format.limit_eq]
      exact Nat.pow_le_pow_right (by decide) room
    rw [← pow_add, ← pow_succ']
    exact_mod_cast atMost
  rw [nearest.isFinite_iff]
  refine bounded.trans_lt (lt_of_mul_lt_mul_right ?_ unit.le)
  have middle := format.overflow_middle
  linarith

end CheckedLiterals.Binary
