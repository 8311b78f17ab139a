import CheckedLiterals.Proofs.Binary.Grid
import Mathlib.Algebra.Order.Field.Rat
import Mathlib.Algebra.Order.Group.Unbundled.Abs
import Mathlib.Data.Nat.Cast.Order.Field
import Mathlib.Tactic.FieldSimp
import Mathlib.Tactic.Linarith

namespace CheckedLiterals.Binary

/-!
# What is nearest on the grid

A rational number of units has exactly one nearest grid point, once a tie is
decided for the point with an even significand.  The grid point that the rounding
function computes is the nearest one in this sense.  Being the nearest is
monotone in the number that is rounded, and a grid point is nearest to itself.
-/

/-- Of two points, what is not farther from the upper one lies not below their middle. -/
theorem add_le_of_nearer_upper
    {lower upper value : ℚ}
    (ordered : lower < upper)
    (nearer : |value - upper| ≤ |value - lower|) :
    lower + upper ≤ 2 * value := by
  rcases abs_cases (value - upper) with ⟨upperDistance, _⟩ | ⟨upperDistance, _⟩ <;>
    rcases abs_cases (value - lower) with ⟨lowerDistance, _⟩ | ⟨lowerDistance, _⟩ <;>
    linarith

/-- Of two points, what is not farther from the lower one lies not above their middle. -/
theorem le_add_of_nearer_lower
    {lower upper value : ℚ}
    (ordered : lower < upper)
    (nearer : |value - lower| ≤ |value - upper|) :
    2 * value ≤ lower + upper := by
  rcases abs_cases (value - upper) with ⟨upperDistance, _⟩ | ⟨upperDistance, _⟩ <;>
    rcases abs_cases (value - lower) with ⟨lowerDistance, _⟩ | ⟨lowerDistance, _⟩ <;>
    linarith

namespace Format

variable {format : Format}

/--
Whether a grid point is the nearest to a rational number of units: no grid point is
nearer, and if another one is as near, the significand of this one is even.
-/
structure IsNearest (format : Format) (value : ℚ) (units : Nat) : Prop where
  onGrid : format.OnGrid units
  leastDistance : ∀ other, format.OnGrid other → |value - units| ≤ |value - other|
  evenOnTie :
    ∀ other, format.OnGrid other →
      other ≠ units →
      |value - other| = |value - units| →
      Even (format.significand units)

/-- A grid point is the nearest to itself. -/
theorem OnGrid.isNearest
    {units : Nat}
    (onGrid : format.OnGrid units) :
    format.IsNearest units units where
  onGrid :=
    onGrid
  leastDistance other _ := by
    rw [sub_self, abs_zero]
    exact abs_nonneg _
  evenOnTie other _ different equallyNear := by
    rw [sub_self, abs_zero, abs_eq_zero, sub_eq_zero] at equallyNear
    exact absurd (Nat.cast_injective equallyNear).symm different

/-- What is rounded to a lower grid point lies below the middle between the two. -/
theorem IsNearest.le_middle
    {value : ℚ}
    {units other : Nat}
    (nearest : format.IsNearest value units)
    (onGrid : format.OnGrid other)
    (below : units < other) :
    2 * value ≤ units + other :=
  le_add_of_nearer_lower (Nat.cast_lt.mpr below) (nearest.leastDistance other onGrid)

/-- What is rounded to a higher grid point lies above the middle between the two. -/
theorem IsNearest.middle_le
    {value : ℚ}
    {units other : Nat}
    (nearest : format.IsNearest value units)
    (onGrid : format.OnGrid other)
    (above : other < units) :
    other + units ≤ 2 * value :=
  add_le_of_nearer_upper (Nat.cast_lt.mpr above) (nearest.leastDistance other onGrid)

/-- The significand of a shifted count that fills the precision is the count. -/
theorem significand_shifted
    {count shift : Nat}
    (below : count < 2 ^ format.precision)
    (fills : format.Fills count shift) :
    format.significand (count * 2 ^ shift) = count := by
  rw [significand, spacing_shifted below fills]
  exact Nat.mul_div_cancel _ (Nat.two_pow_pos _)

/-- An even count has an even significand, also where it carries out of the precision. -/
theorem even_significand_shifted
    {count shift : Nat}
    (bound : count ≤ 2 ^ format.precision)
    (fills : format.Fills count shift)
    (even : Even count) :
    Even (format.significand (count * 2 ^ shift)) := by
  rcases Nat.lt_or_eq_of_le bound with below | rfl
  · rwa [significand_shifted below fills]
  · rw [significand, spacing_carry]
    cases format <;>
      simp only [precision, Nat.pow_succ _ shift] <;>
      rw [Nat.mul_comm, Nat.mul_div_mul_left _ _ (Nat.two_pow_pos _)] <;>
      decide

/-- Two grid points are nearest to one number only if they are the same. -/
theorem IsNearest.not_lt
    {value : ℚ}
    {low high : Nat}
    (lowNearest : format.IsNearest value low)
    (highNearest : format.IsNearest value high) :
    ¬low < high := by
  intro ordered
  -- The number is in the middle, and the upper point is one step above the lower one.
  have belowMiddle := lowNearest.le_middle highNearest.onGrid ordered
  have aboveMiddle := highNearest.middle_le lowNearest.onGrid ordered
  have stepOnGrid := lowNearest.onGrid.add_spacing
  have step := lowNearest.onGrid.add_spacing_le highNearest.onGrid ordered
  have positive := format.spacing_pos low
  have adjacent : high = low + format.spacing low := by
    have notNearer := lowNearest.le_middle stepOnGrid (by omega)
    have : (high : ℚ) ≤ ((low + format.spacing low : Nat) : ℚ) := by linarith
    exact Nat.le_antisymm (Nat.cast_le.mp this) step
  -- Then the significands of the two are neighbours, and one of them is odd.
  have lowEven := lowNearest.evenOnTie high highNearest.onGrid (by omega) (by
    rw [abs_sub_comm value high, abs_of_nonneg, abs_of_nonneg] <;>
      have := (Nat.cast_lt (α := ℚ)).mpr ordered <;>
      linarith)
  have highEven := highNearest.evenOnTie low lowNearest.onGrid (by omega) (by
    rw [abs_sub_comm value high, abs_of_nonneg, abs_of_nonneg] <;>
      have := (Nat.cast_lt (α := ℚ)).mpr ordered <;>
      linarith)
  have below := format.div_spacing_lt low
  have fills := format.fills_div_spacing low
  have shape : high = (format.significand low + 1) * 2 ^ format.excess low := by
    rw [adjacent, significand, Nat.add_mul, Nat.one_mul, ← spacing_eq,
      Nat.div_mul_cancel lowNearest.onGrid]
  change format.significand low < _ at below
  change format.Fills (format.significand low) _ at fills
  rcases Nat.lt_or_eq_of_le (Nat.succ_le_of_lt below) with inside | carry
  · rw [shape, significand_shifted inside (fills.imp_right fun full => by omega)] at highEven
    exact Nat.even_add_one.mp highEven lowEven
  · have : Even (format.significand low + 1) := by
      rw [← Nat.succ_eq_add_one, carry]
      cases format <;> decide
    exact Nat.even_add_one.mp this lowEven

/-- There is at most one nearest grid point. -/
theorem IsNearest.unique
    {value : ℚ}
    {units other : Nat}
    (first : format.IsNearest value units)
    (second : format.IsNearest value other) :
    units = other :=
  Nat.le_antisymm
    (Nat.not_lt.mp (second.not_lt first))
    (Nat.not_lt.mp (first.not_lt second))

/-- A larger number has no smaller nearest grid point. -/
theorem IsNearest.mono
    {lower upper : ℚ}
    {units other : Nat}
    (lowerNearest : format.IsNearest lower units)
    (upperNearest : format.IsNearest upper other)
    (ordered : lower ≤ upper) :
    units ≤ other := by
  by_contra crossed
  have above := lowerNearest.middle_le upperNearest.onGrid (by omega)
  have below := upperNearest.le_middle lowerNearest.onGrid (by omega)
  have same : lower = upper := by linarith
  subst same
  exact crossed (lowerNearest.unique upperNearest).le

/-- Rounding does not go up past a grid point. -/
theorem IsNearest.le_point
    {value : ℚ}
    {units point : Nat}
    (nearest : format.IsNearest value units)
    (onGrid : format.OnGrid point)
    (atMost : value ≤ point) :
    units ≤ point :=
  nearest.mono onGrid.isNearest atMost

/-- Rounding does not go down past a grid point. -/
theorem IsNearest.point_le
    {value : ℚ}
    {units point : Nat}
    (nearest : format.IsNearest value units)
    (onGrid : format.OnGrid point)
    (atLeast : point ≤ value) :
    point ≤ units :=
  onGrid.isNearest.mono nearest atLeast

/--
Of the two neighbours of a number of units, the one that is not farther from a value
between them is the nearest grid point, if it is even on a tie.
-/
theorem isNearest_of_neighbour
    {value : ℚ}
    (units : Nat)
    {chosen : Nat}
    (lower : (format.gridFloor units : ℚ) ≤ value)
    (upper : value ≤ format.gridFloor units + format.spacing units)
    (neighbour :
      chosen = format.gridFloor units ∧
          2 * (value - format.gridFloor units) ≤ format.spacing units ∨
        chosen = format.gridFloor units + format.spacing units ∧
          (format.spacing units : ℚ) ≤ 2 * (value - format.gridFloor units))
    (tie :
      2 * (value - format.gridFloor units) = format.spacing units →
        Even (format.significand chosen)) :
    format.IsNearest value chosen := by
  have outside : ∀ other, format.OnGrid other →
      (other : ℚ) ≤ format.gridFloor units ∨
        (format.gridFloor units + format.spacing units : ℚ) ≤ other := by
    intro other onGrid
    exact_mod_cast onGrid.le_gridFloor_or_le units
  rcases neighbour with ⟨rfl, nearer⟩ | ⟨rfl, nearer⟩
  · have distance : |value - format.gridFloor units| = value - format.gridFloor units :=
      abs_of_nonneg (by linarith)
    refine ⟨format.onGrid_gridFloor units, ?_, ?_⟩
    · intro other onGrid
      rw [distance]
      rcases outside other onGrid with low | high
      · rw [abs_of_nonneg] <;> linarith
      · rw [abs_of_nonpos] <;> linarith
    · intro other onGrid different equallyNear
      rw [distance] at equallyNear
      apply tie
      rcases outside other onGrid with low | high
      · rw [abs_of_nonneg (by linarith)] at equallyNear
        exact absurd (Nat.cast_injective (by linarith : (other : ℚ) = _)) different
      · rw [abs_of_nonpos (by linarith)] at equallyNear
        linarith
  · have distance : |value - ((format.gridFloor units + format.spacing units : Nat) : ℚ)| =
        format.gridFloor units + format.spacing units - value := by
      rw [Nat.cast_add, abs_of_nonpos] <;> linarith
    refine ⟨format.onGrid_gridFloor_add units, ?_, ?_⟩
    · intro other onGrid
      rw [distance]
      rcases outside other onGrid with low | high
      · rw [abs_of_nonneg] <;> linarith
      · rw [abs_of_nonpos] <;> linarith
    · intro other onGrid different equallyNear
      rw [distance] at equallyNear
      apply tie
      rcases outside other onGrid with low | high
      · rw [abs_of_nonneg (by linarith)] at equallyNear
        linarith
      · rw [abs_of_nonpos (by linarith)] at equallyNear
        refine absurd (Nat.cast_injective (R := ℚ) ?_) different
        rw [Nat.cast_add]
        linarith

end Format

end CheckedLiterals.Binary
