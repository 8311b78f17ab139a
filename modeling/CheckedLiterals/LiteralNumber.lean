import CheckedLiterals.Binary.Decimal
import CheckedLiterals.Text.WhiteSpace

namespace CheckedLiterals

/-!
# Numbers in literals

A literal denotes a number if, without the white space around it, without one
type suffix and without the underscores that separate digits, it is a numeral.
Whole numbers that fit into 64 bits with a sign are kept as they are; every other
numeral is rounded to double width, and has to be finite there.
-/

/-- The number that a literal denotes. -/
inductive LiteralNumber where
  | integer (value : Int64)
  | float (value : Binary64)
  deriving DecidableEq

namespace LiteralNumber

/-- The suffixes that name a number type, in the order in which they are tried. -/
def suffixes : List (List Char) :=
  ["i128".toList, "u128".toList, "isize".toList, "usize".toList, "i16".toList, "i32".toList,
    "i64".toList, "u16".toList, "u32".toList, "u64".toList, "f32".toList, "f64".toList,
    "i8".toList, "u8".toList]

/-- The text before a suffix, if the text ends in the suffix. -/
def beforeSuffix? (suffix text : List Char) : Option (List Char) :=
  if suffix.isSuffixOf text then
    some (text.take (text.length - suffix.length))
  else
    none

/-- The text without the first suffix in the list that it ends in. -/
def withoutSuffix (text : List Char) : List Char :=
  (suffixes.findSome? (beforeSuffix? · text)).getD text

/-- Whether the last character is a digit or a point. -/
def endsNumeric (text : List Char) : Bool :=
  text.getLast?.any fun c => c.isDigit || c == '.'

/-- What remains of a literal once it is trimmed, and suffix and underscores are gone. -/
def body (text : List Char) : List Char :=
  (withoutSuffix (Text.trim text)).filter (· != '_')

/-- Whether a whole number fits into 64 bits with a sign. -/
def fits (value : Int) : Bool :=
  decide (Int64.minValue.toInt ≤ value) && decide (value ≤ Int64.maxValue.toInt)

/-- The number denoted by a literal without suffix and underscores. -/
def ofBody? (text : List Char) : Option LiteralNumber :=
  match (Numeral.integer? text).filter fits with
  | some value => some (.integer (Int64.ofInt value))
  | none =>
      match (Numeral.parse? text).map (Binary.ofNumeral .binary64) with
      | some value => if value.isFinite then some (.float value) else none
      | none => none

/-- The number that a literal denotes, if it denotes one. -/
def parse? (text : String) : Option LiteralNumber :=
  let text := body text.toList
  if endsNumeric text then ofBody? text else none

/-- The order of the number and a whole number; what is not a number counts as equal. -/
def compareInt : LiteralNumber → Int → Ordering
  | .integer value, bound => compare value.toInt bound
  | .float value, bound => (value.compareInt? bound).getD .eq

/-- The number as it is in single width, written back to double width. -/
def narrowed? : LiteralNumber → Option LiteralNumber
  | .integer _ => none
  | .float value => some (.float ((value.convert .binary32).convert .binary64))

/-- Whether the number is above zero. -/
def isPositive (number : LiteralNumber) : Bool :=
  number.compareInt 0 == .gt

/-- Whether the number is below zero. -/
def isNegative (number : LiteralNumber) : Bool :=
  number.compareInt 0 == .lt

/-- Whether the number compares equal to zero. -/
def isZero (number : LiteralNumber) : Bool :=
  number.compareInt 0 == .eq

/-- Whether the number is not above the bound. -/
def isAtMost (number : LiteralNumber) (bound : Int) : Bool :=
  number.compareInt bound != .gt

/-- Whether the number is not below the bound. -/
def isAtLeast (number : LiteralNumber) (bound : Int) : Bool :=
  number.compareInt bound != .lt

end LiteralNumber

end CheckedLiterals
