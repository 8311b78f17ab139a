import CheckedLiterals.Binary.Rounding

namespace CheckedLiterals

/-!
# Floating-point numbers

A number of a binary format is not a number at all, infinite, or a sign with a
representable number of units; zero has two signs.  All arithmetic is exact
arithmetic on units followed by one rounding, and comparison is comparison of
signed units, where an infinity stands past every finite number.
-/

open Binary

/-- A floating-point number of a format. -/
inductive Binary (format : Format) where
  | nan
  | infinite (negative : Bool)
  | finite (negative : Bool) (units : Nat) (represents : format.Represents units)
  deriving DecidableEq

/-- The double-width floating-point numbers. -/
abbrev Binary64 := Binary .binary64

/-- The single-width floating-point numbers. -/
abbrev Binary32 := Binary .binary32

namespace Binary

variable {format : Format}

/-- Zero with a sign. -/
def zero (negative : Bool) : Binary format :=
  .finite negative 0 format.represents_zero

instance : Inhabited (Binary format) :=
  ⟨zero false⟩

/-- The number of the format nearest to a quotient of units, ties to even. -/
def ofRatio (format : Format) (negative : Bool) (numerator denominator : Nat) : Binary format :=
  if within : format.nearest numerator denominator < format.limit then
    .finite negative (format.nearest numerator denominator)
      ⟨format.nearest_mod_spacing numerator denominator, within⟩
  else
    .infinite negative

/-- The number of the format nearest to a whole number. -/
def ofInt (format : Format) (value : Int) : Binary format :=
  ofRatio format (decide (value < 0)) (value.natAbs <<< format.scale) 1

/-- The number of units with the sign in front. -/
def signed (negative : Bool) (units : Nat) : Int :=
  if negative then -(units : Int) else (units : Int)

/-- Where a number stands on the line of signed units, if it is one. -/
def rank? : Binary format → Option Int
  | .nan => none
  | .infinite negative => some (signed negative format.limit)
  | .finite negative units _ => some (signed negative units)

/-- The order of two numbers, if both are numbers. -/
def compare? (left right : Binary format) : Option Ordering :=
  match left.rank?, right.rank? with
  | some leftRank, some rightRank => some (compare leftRank rightRank)
  | _, _ => none

/-- The order of a number and the number nearest to a whole number. -/
def compareInt? (number : Binary format) (value : Int) : Option Ordering :=
  number.compare? (ofInt format value)

/-- Whether the number is neither infinite nor not a number. -/
def isFinite : Binary format → Bool
  | .finite .. => true
  | _ => false

/-- Whether a minus is written in front of the number. -/
def isNegative : Binary format → Bool
  | .nan => false
  | .infinite negative => negative
  | .finite negative _ _ => negative

/-- The number with the other sign. -/
def neg : Binary format → Binary format
  | .nan => .nan
  | .infinite negative => .infinite (!negative)
  | .finite negative units represents => .finite (!negative) units represents

/-- The rounded sum; an exact zero is positive unless both terms are negative. -/
def add : Binary format → Binary format → Binary format
  | .nan, _ => .nan
  | _, .nan => .nan
  | .infinite left, .infinite right => if left = right then .infinite left else .nan
  | .infinite left, .finite .. => .infinite left
  | .finite .., .infinite right => .infinite right
  | .finite left leftUnits _, .finite right rightUnits _ =>
      let sum := signed left leftUnits + signed right rightUnits
      if sum = 0 then
        zero (left && right)
      else
        ofRatio format (decide (sum < 0)) sum.natAbs 1

/-- The rounded difference. -/
def sub (left right : Binary format) : Binary format :=
  left.add right.neg

/-- The rounded product; infinity times zero is not a number. -/
def mul : Binary format → Binary format → Binary format
  | .nan, _ => .nan
  | _, .nan => .nan
  | .infinite left, .infinite right => .infinite (left != right)
  | .infinite left, .finite right units _ =>
      if units = 0 then .nan else .infinite (left != right)
  | .finite left units _, .infinite right =>
      if units = 0 then .nan else .infinite (left != right)
  | .finite left leftUnits _, .finite right rightUnits _ =>
      ofRatio format (left != right) (leftUnits * rightUnits) (1 <<< format.scale)

/-- The nearest number of another format. -/
def convert (target : Format) : Binary format → Binary target
  | .nan => .nan
  | .infinite negative => .infinite negative
  | .finite negative units _ =>
      ofRatio target negative (units <<< target.scale) (1 <<< format.scale)

end Binary

end CheckedLiterals
