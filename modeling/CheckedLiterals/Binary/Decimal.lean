import CheckedLiterals.Binary.Basic
import CheckedLiterals.Numeral

namespace CheckedLiterals.Binary

/-!
# Decimal to binary

The number of a format nearest to a decimal of any length and any exponent.  An
exponent far above or below the range of the format decides the result at once,
so that no power of ten grows past what the format and the digits call for.
-/

variable {format : Format}

/-- Ten to a power. -/
def powerOfTen (exponent : Nat) : Nat :=
  Nat.pow 10 exponent

/-- The number of the format nearest to a whole number times a power of ten. -/
def ofDecimal
    (format : Format)
    (negative : Bool)
    (significand : Nat)
    (exponent : Int) :
    Binary format :=
  if significand = 0 then
    zero negative
  else
    match exponent with
    | .ofNat up =>
        if format.reach ≤ up then
          .infinite negative
        else
          ofRatio format negative ((significand * powerOfTen up) <<< format.scale) 1
    | .negSucc less =>
        let down := less + 1
        if significand.log2 + format.scale + 2 ≤ 3 * down then
          zero negative
        else
          ofRatio format negative (significand <<< format.scale) (powerOfTen down)

/-- The number of the format nearest to a numeral. -/
def ofNumeral (format : Format) (numeral : Numeral) : Binary format :=
  ofDecimal format numeral.negative numeral.significand numeral.exponent

/-- The words for what is not finite, in lower case. -/
def ofWord? (negative : Bool) (word : List Char) : Option (Binary format) :=
  if word == "inf".toList || word == "infinity".toList then
    some (.infinite negative)
  else if word == "nan".toList then
    some .nan
  else
    none

/-- Read a number: a numeral, or a word in any case for what is not finite. -/
def ofText? (format : Format) (text : String) : Option (Binary format) :=
  match Numeral.parse? text.toList with
  | some numeral => some (ofNumeral format numeral)
  | none =>
      let (negative, word) := Numeral.splitSign text.toList
      ofWord? negative (word.map Char.toLower)

end CheckedLiterals.Binary
