import CheckedLiterals.Binary.Format

namespace CheckedLiterals.Binary

/-!
# Rounding to nearest, ties to even

A quotient of whole numbers is rounded to the nearest whole number, and a half
goes to the even neighbour.  The nearest number of a format is found by rounding
to the nearest multiple of the spacing at the quotient; a carry into the next
power of two needs no case of its own, because that power is a multiple of its
own, wider spacing.
-/

/-- The whole number nearest to a quotient; a half goes to the even neighbour. -/
def roundHalfEven (numerator denominator : Nat) : Nat :=
  let quotient := numerator / denominator
  let twice := 2 * (numerator % denominator)
  if twice < denominator then
    quotient
  else if denominator < twice then
    quotient + 1
  else
    quotient + quotient % 2

/-- The units, within the precision, nearest to a quotient of units. -/
def Format.nearest (format : Format) (numerator denominator : Nat) : Nat :=
  let spacing := format.spacing (numerator / denominator)
  roundHalfEven numerator (denominator * spacing) * spacing

/-- Rounding goes up by at most one. -/
theorem roundHalfEven_le (numerator denominator : Nat) :
    roundHalfEven numerator denominator ≤ numerator / denominator + 1 := by
  simp only [roundHalfEven]
  split
  · omega
  · split
    · omega
    · have := Nat.mod_lt (numerator / denominator) (show 0 < 2 by decide)
      omega

/-- A count that the precision can hold keeps within it wherever it is shifted to. -/
theorem Format.shiftLeft_mod_spacing
    (format : Format)
    {count : Nat}
    (bound : count ≤ 1 <<< format.precision)
    (shift : Nat) :
    count <<< shift % format.spacing (count <<< shift) = 0 := by
  rw [Nat.one_shiftLeft] at bound
  rw [Nat.shiftLeft_eq]
  rcases Nat.eq_zero_or_pos count with rfl | positive
  · simp
  have nonzero : count * 2 ^ shift ≠ 0 :=
    Nat.ne_of_gt (Nat.mul_pos positive (Nat.two_pow_pos shift))
  have aboveZero := format.precision_pos
  simp only [Format.spacing, Format.excess, Nat.one_shiftLeft]
  apply Nat.mod_eq_zero_of_dvd
  rcases Nat.lt_or_eq_of_le bound with below | same
  · have logBelow : (count * 2 ^ shift).log2 < format.precision + shift := by
      rw [Nat.log2_lt nonzero, Nat.pow_add]
      exact Nat.mul_lt_mul_of_pos_right below (Nat.two_pow_pos shift)
    apply Nat.dvd_mul_left_of_dvd
    exact Nat.pow_dvd_pow 2 (by omega)
  · rw [same, ← Nat.pow_add, Nat.log2_two_pow]
    exact Nat.pow_dvd_pow 2 (by omega)

/-- Counted in steps of the spacing, units take up no more bits than the precision has. -/
theorem Format.div_spacing_lt_shiftLeft (format : Format) (units : Nat) :
    units / format.spacing units < 1 <<< format.precision := by
  rw [Format.spacing, Nat.one_shiftLeft, Nat.one_shiftLeft,
    Nat.div_lt_iff_lt_mul (Nat.two_pow_pos _), ← Nat.pow_add]
  rcases Nat.eq_zero_or_pos units with zero | positive
  · rw [zero]
    exact Nat.two_pow_pos _
  · rw [← Nat.log2_lt (Nat.ne_of_gt positive)]
    simp only [Format.excess]
    omega

/-- What is rounded keeps within the precision of its format. -/
theorem Format.nearest_mod_spacing (format : Format) (numerator denominator : Nat) :
    format.nearest numerator denominator % format.spacing (format.nearest numerator denominator) =
      0 := by
  have small := format.div_spacing_lt_shiftLeft (numerator / denominator)
  rw [Nat.div_div_eq_div_mul] at small
  have upper :=
    roundHalfEven_le numerator (denominator * format.spacing (numerator / denominator))
  have shifted : ∀ count ≤ 1 <<< format.precision,
      count <<< format.excess (numerator / denominator) %
        format.spacing (count <<< format.excess (numerator / denominator)) = 0 :=
    fun _ bound => format.shiftLeft_mod_spacing bound _
  simp only [Format.nearest, Format.spacing, Nat.shiftLeft_eq, Nat.one_mul] at small upper shifted ⊢
  exact shifted _ (by omega)

end CheckedLiterals.Binary
