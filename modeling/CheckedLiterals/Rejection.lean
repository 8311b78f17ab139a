namespace CheckedLiterals

/-!
# Why a literal is rejected

A violation is a broken condition on a value.  It has one wording for a literal
that is judged before the program runs and another for a value that is judged
while it runs.  A rejection of a literal is a violation, or there was no literal
to judge.
-/

/-- A condition on a value that does not hold, named for the fault. -/
inductive Violation where
  | notPositive
  | notNegative
  | positive
  | negative
  | zero
  | empty
  | lessThanZero
  | greaterThanOne
  | lessThanMinusOne
  deriving Repr, DecidableEq

namespace Violation

/-- Every violation, in the order in which they are listed. -/
def all : List Violation :=
  [.notPositive, .notNegative, .positive, .negative, .zero, .empty,
    .lessThanZero, .greaterThanOne, .lessThanMinusOne]

/-- The name under which a violation is reported. -/
def name : Violation → String
  | .notPositive => "NotPositive"
  | .notNegative => "NotNegative"
  | .positive => "Positive"
  | .negative => "Negative"
  | .zero => "Zero"
  | .empty => "Empty"
  | .lessThanZero => "LessThanZero"
  | .greaterThanOne => "GreaterThanOne"
  | .lessThanMinusOne => "LessThanMinusOne"

/-- What is said about a literal with this fault. -/
def literalMessage : Violation → String
  | .notPositive => "should be positive"
  | .notNegative => "should be negative"
  | .positive => "should not be positive"
  | .negative => "should not be negative"
  | .zero => "should not be zero"
  | .empty => "should not be empty"
  | .lessThanZero => "should be greater than or equal to zero"
  | .greaterThanOne => "should be less than or equal to one"
  | .lessThanMinusOne => "should be greater than or equal to minus one"

/-- What is said about a value with this fault. -/
def valueMessage : Violation → String
  | .notPositive => "value must be positive"
  | .notNegative => "value must be negative"
  | .positive => "value must not be positive"
  | .negative => "value must be non-negative"
  | .zero => "value must be non-zero"
  | .empty => "string cannot be empty"
  | .lessThanZero => "value must be greater than or equal to zero"
  | .greaterThanOne => "value must be less than or equal to one"
  | .lessThanMinusOne => "value must be greater than or equal to minus one"

end Violation

/-- Why a literal is not accepted. -/
inductive Rejection where
  | missingArguments
  | notNumberLiteral
  | violation (cause : Violation)
  deriving Repr, DecidableEq

namespace Rejection

/-- Every rejection, in the order in which they are listed. -/
def all : List Rejection :=
  .missingArguments :: .notNumberLiteral :: Violation.all.map .violation

/-- The name under which a rejection is reported. -/
def name : Rejection → String
  | .missingArguments => "MissingArguments"
  | .notNumberLiteral => "NotNumberLiteral"
  | .violation cause => cause.name

/-- The text of a rejection. -/
def message : Rejection → String
  | .missingArguments => "missing macro argument(s)"
  | .notNumberLiteral => "should be number literal"
  | .violation cause => cause.literalMessage

end Rejection

/-- Outcomes are equal if both are results or both are faults, and these are equal. -/
instance decidableEqOutcome
    {Fault Value : Type}
    [DecidableEq Fault]
    [DecidableEq Value] :
    DecidableEq (Except Fault Value)
  | .error left, .error right => decidable_of_iff (left = right) (by simp)
  | .ok left, .ok right => decidable_of_iff (left = right) (by simp)
  | .error _, .ok _ => .isFalse nofun
  | .ok _, .error _ => .isFalse nofun

end CheckedLiterals
