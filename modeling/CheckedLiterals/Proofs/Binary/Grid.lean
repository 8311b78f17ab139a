import CheckedLiterals.Binary.Rounding
import Mathlib.Algebra.Order.Ring.Nat
import Mathlib.Tactic.Ring

namespace CheckedLiterals.Binary.Format

/-!
# The grid of a format

Without a bound on their size, the numbers of units that fit the precision of a
format form a grid.  Its points get sparser upwards: the spacing at any number of
units divides every grid point from there on.  Hence the two grid points around a
number of units are the multiples of the spacing around it.
-/

/-- Whether a number of units fits the precision of the format, however large it is. -/
def OnGrid (format : Format) (units : Nat) : Prop :=
  format.spacing units ∣ units

/-- The digits of a grid point: how many steps of its spacing it is away from zero. -/
def significand (format : Format) (units : Nat) : Nat :=
  units / format.spacing units

/-- The greatest grid point that is not above a number of units. -/
def gridFloor (format : Format) (units : Nat) : Nat :=
  units / format.spacing units * format.spacing units

variable {format : Format}

/-- A representable number of units is a grid point below the limit. -/
theorem represents_iff {units : Nat} :
    format.Represents units ↔ format.OnGrid units ∧ units < format.limit := by
  rw [Represents, OnGrid, Nat.dvd_iff_mod_eq_zero]

/-- The spacing is a power of two. -/
theorem spacing_eq (format : Format) (units : Nat) :
    format.spacing units = 2 ^ format.excess units := by
  rw [spacing, Nat.one_shiftLeft]

/-- Grid points are apart. -/
theorem spacing_pos (format : Format) (units : Nat) : 0 < format.spacing units := by
  rw [spacing_eq]
  exact Nat.two_pow_pos _

/-- The limit is a power of two. -/
theorem limit_eq (format : Format) : format.limit = 2 ^ format.reach := by
  rw [limit, Nat.one_shiftLeft]

theorem limit_pos (format : Format) : 0 < format.limit := by
  rw [limit_eq]
  exact Nat.two_pow_pos _

theorem div_spacing_lt (format : Format) (units : Nat) :
    units / format.spacing units < 2 ^ format.precision := by
  rw [← Nat.one_shiftLeft]
  exact format.div_spacing_lt_shiftLeft units

/-- A count that the precision can hold is a grid point wherever it is shifted to. -/
theorem onGrid_shifted
    {count : Nat}
    (bound : count ≤ 2 ^ format.precision)
    (shift : Nat) :
    format.OnGrid (count * 2 ^ shift) := by
  rw [← Nat.one_shiftLeft] at bound
  rw [← Nat.shiftLeft_eq]
  exact Nat.dvd_of_mod_eq_zero (format.shiftLeft_mod_spacing bound shift)

/-- The grid points are the significands that the precision holds, with any exponent. -/
theorem onGrid_iff {units : Nat} :
    format.OnGrid units ↔
      ∃ count shift, count < 2 ^ format.precision ∧ units = count * 2 ^ shift := by
  constructor
  · intro onGrid
    refine ⟨units / format.spacing units, format.excess units, format.div_spacing_lt units, ?_⟩
    rw [← spacing_eq, Nat.div_mul_cancel onGrid]
  · rintro ⟨count, shift, bound, rfl⟩
    exact onGrid_shifted bound.le shift

/-- There are no fewer excess bits in a larger number of units. -/
theorem excess_mono {small large : Nat} (ordered : small ≤ large) :
    format.excess small ≤ format.excess large := by
  rcases Nat.eq_zero_or_pos small with rfl | positive
  · rw [excess_zero]
    exact Nat.zero_le _
  · have logOrdered : small.log2 ≤ large.log2 := by
      rw [Nat.le_log2 (by omega)]
      exact (Nat.log2_self_le (by omega)).trans ordered
    simp only [excess]
    omega

/-- The spacing at smaller units divides the spacing at larger ones. -/
theorem spacing_dvd_spacing {small large : Nat} (ordered : small ≤ large) :
    format.spacing small ∣ format.spacing large := by
  rw [spacing_eq, spacing_eq]
  exact Nat.pow_dvd_pow 2 (excess_mono ordered)

/-- A grid point is a multiple of the spacing at any units below it. -/
theorem OnGrid.spacing_dvd
    {small units : Nat}
    (onGrid : format.OnGrid units)
    (ordered : small ≤ units) :
    format.spacing small ∣ units :=
  (spacing_dvd_spacing ordered).trans onGrid

/-- A shifted count fills the precision, or is not shifted at all. -/
def Fills (format : Format) (count shift : Nat) : Prop :=
  shift = 0 ∨ 2 ^ (format.precision - 1) ≤ count

/-- The spacing at a shifted count that fills the precision is the shift. -/
theorem spacing_shifted
    {count shift : Nat}
    (below : count < 2 ^ format.precision)
    (fills : format.Fills count shift) :
    format.spacing (count * 2 ^ shift) = 2 ^ shift := by
  have aboveZero := format.precision_pos
  rcases Nat.eq_zero_or_pos count with rfl | positive
  · rcases fills with rfl | full
    · rw [Nat.zero_mul, spacing_eq, excess_zero]
    · exact absurd full (Nat.not_le.mpr (Nat.two_pow_pos _))
  have nonzero : count * 2 ^ shift ≠ 0 :=
    Nat.ne_of_gt (Nat.mul_pos positive (Nat.two_pow_pos shift))
  have logBelow : (count * 2 ^ shift).log2 < format.precision + shift := by
    rw [Nat.log2_lt nonzero, Nat.pow_add]
    exact Nat.mul_lt_mul_of_pos_right below (Nat.two_pow_pos shift)
  rw [spacing_eq, excess]
  congr 1
  rcases fills with rfl | full
  · omega
  · have logAbove : format.precision - 1 + shift ≤ (count * 2 ^ shift).log2 := by
      rw [Nat.le_log2 nonzero, Nat.pow_add]
      exact Nat.mul_le_mul_right _ full
    omega

/-- The spacing doubles where a count carries out of the precision. -/
theorem spacing_carry (format : Format) (shift : Nat) :
    format.spacing (2 ^ format.precision * 2 ^ shift) = 2 ^ (shift + 1) := by
  rw [spacing_eq, excess, ← Nat.pow_add, Nat.log2_two_pow]
  congr 1
  omega

/-- Units counted in steps of their spacing fill the precision. -/
theorem fills_div_spacing (format : Format) (units : Nat) :
    format.Fills (units / format.spacing units) (format.excess units) := by
  rcases Nat.eq_zero_or_pos (format.excess units) with zero | positive
  · exact .inl zero
  · right
    rw [Nat.le_div_iff_mul_le (format.spacing_pos units), spacing_eq, ← Nat.pow_add]
    have nonzero : units ≠ 0 := by
      rintro rfl
      simp [excess_zero] at positive
    have logged := Nat.log2_self_le nonzero
    simp only [excess] at positive ⊢
    rwa [show format.precision - 1 + (units.log2 + 1 - format.precision) = units.log2 by
      have := format.precision_pos
      omega]

/-- Going down to the grid keeps the spacing. -/
theorem spacing_gridFloor (format : Format) (units : Nat) :
    format.spacing (format.gridFloor units) = format.spacing units := by
  have below := format.div_spacing_lt units
  have fills := format.fills_div_spacing units
  rw [gridFloor, spacing_eq format units] at *
  exact spacing_shifted below fills

/-- The greatest grid point below units is a grid point. -/
theorem onGrid_gridFloor (format : Format) (units : Nat) :
    format.OnGrid (format.gridFloor units) := by
  rw [OnGrid, spacing_gridFloor]
  exact Nat.dvd_mul_left _ _

/-- One step up from a grid point is a grid point. -/
theorem onGrid_gridFloor_add (format : Format) (units : Nat) :
    format.OnGrid (format.gridFloor units + format.spacing units) := by
  have below := format.div_spacing_lt units
  have stepped : format.gridFloor units + format.spacing units =
      (units / format.spacing units + 1) * format.spacing units := by
    rw [gridFloor]
    ring
  rw [stepped, spacing_eq] at *
  exact onGrid_shifted below _

/-- There is no grid point between the two neighbours of a number of units. -/
theorem OnGrid.le_gridFloor_or_le
    {other : Nat}
    (onGrid : format.OnGrid other)
    (units : Nat) :
    other ≤ format.gridFloor units ∨
      format.gridFloor units + format.spacing units ≤ other := by
  rcases Nat.lt_or_ge (format.gridFloor units) other with high | low
  · right
    have divides := onGrid.spacing_dvd (Nat.le_of_lt high)
    rw [spacing_gridFloor] at divides
    have floorDivides : format.spacing units ∣ format.gridFloor units :=
      Nat.dvd_mul_left _ _
    have gapDivides := Nat.dvd_sub divides floorDivides
    have gap := Nat.le_of_dvd (by omega) gapDivides
    omega
  · exact .inl low

/-- A grid point is its own greatest grid point. -/
theorem OnGrid.gridFloor_eq
    {units : Nat}
    (onGrid : format.OnGrid units) :
    format.gridFloor units = units :=
  Nat.div_mul_cancel onGrid

/-- The next grid point above a grid point. -/
theorem OnGrid.add_spacing
    {low : Nat}
    (onGrid : format.OnGrid low) :
    format.OnGrid (low + format.spacing low) := by
  have step := format.onGrid_gridFloor_add low
  rwa [onGrid.gridFloor_eq] at step

/-- No grid point lies before the next one. -/
theorem OnGrid.add_spacing_le
    {low high : Nat}
    (lowOnGrid : format.OnGrid low)
    (highOnGrid : format.OnGrid high)
    (ordered : low < high) :
    low + format.spacing low ≤ high := by
  have apart := highOnGrid.le_gridFloor_or_le low
  rw [lowOnGrid.gridFloor_eq] at apart
  omega

end CheckedLiterals.Binary.Format
