import CheckedLiterals.Numeral

namespace CheckedLiterals

/-!
# Layouts of decimals

The digits of a decimal can be written around a point, or as one digit, a point
and the others with the power of ten behind them.  A layout fixes which of the
two forms a decimal takes and how the form is spelled.  Signs are left to the
caller.
-/

/-- A way to write the digits of a decimal. -/
structure Layout where
  /-- The least and the greatest power of ten of a first digit around a point, if not all are. -/
  positional : Option (Int × Int)
  /-- Whether a whole number gets a point and a zero. -/
  pointZero : Bool
  /-- Whether a positive power of ten gets a plus. -/
  exponentPlus : Bool
  deriving Repr, DecidableEq

namespace Layout

/-- The layout for reading by people: always around a point, which whole numbers lack. -/
def plain : Layout :=
  { positional := none, pointZero := false, exponentPlus := false }

/-- The layout for inspection: from 0.0001 up to below 10000000000000000 around a point. -/
def inspected : Layout :=
  { positional := some (-4, 15), pointZero := true, exponentPlus := false }

/-- The digits of a decimal, and how many of them stand before the point. -/
def digitsAndPoint (numeral : Numeral) : List Char × Int :=
  let digits := Nat.toDigits 10 numeral.significand
  (digits, digits.length + numeral.exponent)

/-- Digits around a point, with zeros where the digits do not reach it. -/
def positionalText (pointZero : Bool) (digits : List Char) (point : Int) : List Char :=
  if point ≤ 0 then
    '0' :: '.' :: (List.replicate (-point).toNat '0' ++ digits)
  else if (digits.length : Int) ≤ point then
    digits ++ List.replicate (point.toNat - digits.length) '0' ++
      (if pointZero then ['.', '0'] else [])
  else
    digits.take point.toNat ++ '.' :: digits.drop point.toNat

/-- One digit, a point and the other digits if there are any, and the power of ten. -/
def exponentText (exponentPlus : Bool) (digits : List Char) (power : Int) : List Char :=
  let sign :=
    if power < 0 then ['-'] else if exponentPlus then ['+'] else []
  let rest :=
    if (digits.drop 1).isEmpty then [] else '.' :: digits.drop 1
  digits.take 1 ++ rest ++ 'e' :: (sign ++ Nat.toDigits 10 power.natAbs)

/-- Whether a decimal whose first digit has this power of ten is written around a point. -/
def isPositional (layout : Layout) (power : Int) : Bool :=
  match layout.positional with
  | none => true
  | some (least, greatest) => decide (least ≤ power) && decide (power ≤ greatest)

/-- Write the magnitude of a decimal; zero is written around a point. -/
def write (layout : Layout) (numeral : Numeral) : List Char :=
  let (digits, point) := digitsAndPoint numeral
  if numeral.significand == 0 then
    positionalText layout.pointZero ['0'] 1
  else if layout.isPositional (point - 1) then
    positionalText layout.pointZero digits point
  else
    exponentText layout.exponentPlus digits (point - 1)

/-- Write the magnitude of a decimal whose exponent is the number of its places. -/
def writePlaces (numeral : Numeral) (places : Nat) : List Char :=
  let digits := Nat.toDigits 10 numeral.significand
  let padded := List.replicate (places + 1 - digits.length) '0' ++ digits
  let whole := padded.take (padded.length - places)
  if places = 0 then
    whole
  else
    whole ++ '.' :: padded.drop (padded.length - places)

end Layout

end CheckedLiterals
