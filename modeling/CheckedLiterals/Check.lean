import CheckedLiterals.LiteralNumber
import CheckedLiterals.Rule

namespace CheckedLiterals

/-!
# Checking a literal

A numeric kind reads the literal as a number and judges it.  A number in double
width is judged once more as it is in single width, because the literal may end
up there; so a value that vanishes in single width is neither positive nor
negative.  The string kind looks at the length of the literal alone, where two
characters are the quotes.
-/

namespace Kind

/-- Judge a literal's number as it stands; of a range the upper bound is tried first. -/
def judgeLiteral (kind : Kind) (number : LiteralNumber) : Except Violation Unit :=
  match kind with
  | .positive => require number.isPositive .notPositive
  | .negative => require number.isNegative .notNegative
  | .nonPositive => require (!number.isPositive) .positive
  | .nonNegative => require (!number.isNegative) .negative
  | .nonZero => require (!number.isZero) .zero
  | .nonEmptyString => .error .empty
  | .zeroToOne => do
      require (number.isAtMost 1) .greaterThanOne
      require (number.isAtLeast 0) .lessThanZero
  | .minusOneToOne => do
      require (number.isAtMost 1) .greaterThanOne
      require (number.isAtLeast (-1)) .lessThanMinusOne

/-- Judge a literal's number as it stands and, if it is a float, in single width too. -/
def checkNumber (kind : Kind) (number : LiteralNumber) : Except Violation Unit :=
  match kind.judgeLiteral number with
  | .error fault => .error fault
  | .ok () =>
      match number.narrowed? with
      | none => .ok ()
      | some narrowed => kind.judgeLiteral narrowed

/-- Check the text of a literal. -/
def check (kind : Kind) (text : String) : Except Rejection Unit :=
  if kind.isNumeric then
    match LiteralNumber.parse? text with
    | none => .error .notNumberLiteral
    | some number => (kind.checkNumber number).mapError .violation
  else if 2 < text.length then
    .ok ()
  else
    .error (.violation .empty)

end Kind

end CheckedLiterals
