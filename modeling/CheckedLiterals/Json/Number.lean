import CheckedLiterals.Numeral

namespace CheckedLiterals.Json

/-!
# JSON numbers

A number has digits without needless zeros in front, and may have a minus, a
fraction and an exponent.  A number without fraction and exponent is whole.
-/

/-- A number as it is written. -/
structure Number where
  numeral : Numeral
  isWhole : Bool
  deriving Repr, DecidableEq

/-- Split off a minus. -/
def splitMinus : List Char → Bool × List Char
  | '-' :: rest => (true, rest)
  | text => (false, text)

/-- The digits at the beginning of the text, of which there has to be one, and the rest. -/
def digits? (text : List Char) : Option (List Char × List Char) :=
  if (text.takeWhile Char.isDigit).isEmpty then
    none
  else
    some (text.takeWhile Char.isDigit, text.dropWhile Char.isDigit)

/-- Digits of which the first is zero only if there is no other, and the rest. -/
def wholeDigits? (text : List Char) : Option (List Char × List Char) :=
  match digits? text with
  | some ('0' :: _ :: _, _) => none
  | found => found

/-- The digits behind a point, none if there is no point, and the rest. -/
def fraction? : List Char → Option (List Char × List Char)
  | '.' :: rest => digits? rest
  | text => some ([], text)

/-- The exponent, if there is one, and the rest. -/
def exponent? : List Char → Option (Option Int × List Char)
  | mark :: rest =>
      if mark == 'e' || mark == 'E' then
        let (negative, unsigned) := Numeral.splitSign rest
        (digits? unsigned).map fun (digits, remaining) =>
          let value : Int := Numeral.digitsValue digits
          (some (if negative then -value else value), remaining)
      else
        some (none, mark :: rest)
  | [] => some (none, [])

/-- Read a number and the rest. -/
def readNumber? (text : List Char) : Option (Number × List Char) :=
  let (negative, unsigned) := splitMinus text
  match wholeDigits? unsigned with
  | none => none
  | some (whole, behindWhole) =>
      match fraction? behindWhole with
      | none => none
      | some (fraction, behindFraction) =>
          (exponent? behindFraction).map fun (exponent, rest) =>
            ({ numeral :=
                { negative := negative
                  significand := Numeral.digitsValue (whole ++ fraction)
                  exponent := exponent.getD 0 - fraction.length }
               isWhole := fraction.isEmpty && exponent.isNone }, rest)

/-- Read the sign and the digits of a whole number, whatever follows them, and the rest. -/
def readWhole? (text : List Char) : Option (Bool × Nat × List Char) :=
  let (negative, unsigned) := splitMinus text
  (wholeDigits? unsigned).map fun (digits, rest) =>
    (negative, Numeral.digitsValue digits, rest)

end CheckedLiterals.Json
