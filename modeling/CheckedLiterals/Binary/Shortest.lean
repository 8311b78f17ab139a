import CheckedLiterals.Binary.Decimal

namespace CheckedLiterals.Binary

/-!
# Binary to decimal

Every finite number has an exact decimal expansion.  The shortest decimal of a
number is found by cutting that expansion off after one digit, two digits and so
on, until the decimal below or above the cut reads back as the number.  If both
do, the nearer one is taken.  The whole expansion always reads back, so the
search ends.
-/

variable {format : Format}

/-- Which of two equally near decimals is taken. -/
inductive Tie where
  | up
  | even
  deriving Repr, DecidableEq

/-- The exact decimal value of a sign and a number of units. -/
def exactNumeral (format : Format) (negative : Bool) (units : Nat) : Numeral where
  negative :=
    negative
  significand :=
    units * Nat.pow 5 format.scale
  exponent :=
    -(format.scale : Int)

/-- Whether the part that is cut off asks for the decimal above the cut. -/
def Tie.roundsUp (tie : Tie) (kept remainder power : Nat) : Bool :=
  if 2 * remainder = power then
    match tie with
    | .up => true
    | .even => kept % 2 == 1
  else
    power < 2 * remainder

/-- Cut the last digits off a decimal, and take a neighbour of the cut that reads back. -/
def roundedTo?
    (tie : Tie)
    (number : Binary format)
    (exact : Numeral)
    (dropped : Nat) :
    Option Numeral :=
  let power := powerOfTen dropped
  let kept := exact.significand / power
  let below : Numeral :=
    { exact with significand := kept, exponent := exact.exponent + dropped }
  let above : Numeral :=
    { below with significand := kept + 1 }
  match decide (ofNumeral format below = number), decide (ofNumeral format above = number) with
  | true, false => some below
  | false, true => some above
  | true, true =>
      some (if tie.roundsUp kept (exact.significand % power) power then above else below)
  | false, false => none

/-- The same decimal written without zeros at its end. -/
def withoutTrailingZeros (numeral : Numeral) : Numeral :=
  let digits := Nat.toDigits 10 numeral.significand
  let kept := (digits.reverse.dropWhile (· == '0')).reverse
  { numeral with
    significand := Numeral.digitsValue kept
    exponent := numeral.exponent + (digits.length - kept.length : Nat) }

/-- The decimal with the fewest digits that reads back as the number, and of those the nearest. -/
def shortest
    (tie : Tie)
    (negative : Bool)
    (units : Nat)
    (represents : format.Represents units) :
    Numeral :=
  if units = 0 then
    { negative := negative, significand := 0, exponent := 0 }
  else
    let exact := exactNumeral format negative units
    let number : Binary format := .finite negative units represents
    let count := (Nat.toDigits 10 exact.significand).length
    let found := (List.range count).findSome? fun kept =>
      roundedTo? tie number exact (count - 1 - kept)
    withoutTrailingZeros (found.getD exact)

/-- The nearest decimal with a given number of places, ties to even. -/
def fixed (format : Format) (negative : Bool) (units places : Nat) : Numeral where
  negative :=
    negative
  significand :=
    roundHalfEven (units * powerOfTen places) (1 <<< format.scale)
  exponent :=
    -(places : Int)

end CheckedLiterals.Binary
