namespace CheckedLiterals.Binary

/-!
# Binary formats

The two binary interchange formats.  A finite number of a format is a whole
number of units, where a unit is the least positive number of the format: two to
the power `-scale`.  Of such a whole number only the `precision` leading bits may
differ from zero, and from `limit` units on there are no finite numbers.
-/

/-- A binary format of single or double width. -/
inductive Format where
  | binary32
  | binary64
  deriving Repr, DecidableEq

namespace Format

/-- How many bits a significand has. -/
def precision : Format → Nat
  | .binary32 => 24
  | .binary64 => 53

/-- How many binary places a unit lies behind the point. -/
def scale : Format → Nat
  | .binary32 => 149
  | .binary64 => 1074

/-- How many bits a finite number of units may take up. -/
def reach : Format → Nat
  | .binary32 => 277
  | .binary64 => 2098

/-- How many bits encode a number. -/
def width : Format → Nat
  | .binary32 => 32
  | .binary64 => 64

/-- The first number of units past every finite number. -/
def limit (format : Format) : Nat :=
  1 <<< format.reach

/-- How many of the low bits of a number of units are beyond the precision. -/
def excess (format : Format) (units : Nat) : Nat :=
  units.log2 + 1 - format.precision

/-- The distance between neighbouring numbers of the format from these units upwards. -/
def spacing (format : Format) (units : Nat) : Nat :=
  1 <<< format.excess units

/-- Whether a number of units is the magnitude of a finite number of the format. -/
def Represents (format : Format) (units : Nat) : Prop :=
  units % format.spacing units = 0 ∧ units < format.limit

instance (format : Format) (units : Nat) : Decidable (format.Represents units) := by
  unfold Represents
  infer_instance

/-- The precision leaves room for at least one bit. -/
theorem precision_pos (format : Format) : 0 < format.precision := by
  cases format <;> decide

/-- No bit of zero is beyond the precision. -/
theorem excess_zero (format : Format) : format.excess 0 = 0 := by
  cases format <;> decide

/-- Zero belongs to every format. -/
theorem represents_zero (format : Format) : format.Represents 0 := by
  cases format <;> decide

end Format

end CheckedLiterals.Binary
