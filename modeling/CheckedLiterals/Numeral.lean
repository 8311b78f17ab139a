namespace CheckedLiterals

/-!
# Decimal numerals

The written form of a number: an optional sign, digits with at most one point
among or beside them, and an optional exponent.  A numeral keeps its exact value
as a whole number times a power of ten, however many digits it has and however
large its exponent is.
-/

/-- An exact decimal number with a sign, which a zero has too. -/
structure Numeral where
  negative : Bool
  significand : Nat
  exponent : Int
  deriving Repr, DecidableEq

namespace Numeral

/-- Split off an optional sign; the flag says whether it was a minus. -/
def splitSign : List Char → Bool × List Char
  | '-' :: rest => (true, rest)
  | '+' :: rest => (false, rest)
  | text => (false, text)

/-- The number that a run of decimal digits denotes. -/
def digitsValue (digits : List Char) : Nat :=
  Nat.ofDigitChars 10 digits 0

/-- A nonempty run of digits and nothing else. -/
def isDigits (text : List Char) : Bool :=
  !text.isEmpty && text.all Char.isDigit

/-- The whole number written as an optional sign and digits. -/
def integer? (text : List Char) : Option Int :=
  let (negative, digits) := splitSign text
  if isDigits digits then
    some (if negative then -(digitsValue digits : Int) else (digitsValue digits : Int))
  else
    none

/-- The exponent written behind the digits: nothing, or a letter and a whole number. -/
def exponent? : List Char → Option Int
  | [] => some 0
  | mark :: rest =>
      if mark == 'e' || mark == 'E' then
        integer? rest
      else
        none

/-- The digits behind the point, if there is a point, and what follows them. -/
def splitFraction : List Char → List Char × List Char
  | '.' :: rest => (rest.takeWhile Char.isDigit, rest.dropWhile Char.isDigit)
  | rest => ([], rest)

/-- Read a numeral that takes up the whole text. -/
def parse? (text : List Char) : Option Numeral :=
  let (negative, unsigned) := splitSign text
  let whole := unsigned.takeWhile Char.isDigit
  let (fraction, tail) := splitFraction (unsigned.dropWhile Char.isDigit)
  if (whole ++ fraction).isEmpty then
    none
  else
    (exponent? tail).map fun exponent =>
      { negative := negative
        significand := digitsValue (whole ++ fraction)
        exponent := exponent - fraction.length }

end Numeral

end CheckedLiterals
