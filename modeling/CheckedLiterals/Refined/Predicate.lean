import CheckedLiterals.Binary.Basic
import CheckedLiterals.Refined.Whole
import CheckedLiterals.Rule

namespace CheckedLiterals

/-!
# Predicates

A predicate tells which values of a type it accepts, and what it says about the
others.  The numeric predicates judge a number by the table of its type; what is
not a number fails all of them but the one that excludes zero.
-/

/-- A condition on values of a type. -/
structure Predicate (Value : Type) where
  typeName : String
  description : String
  check : Value → Except String Unit

/-- Values that can be compared with whole numbers, unless they are not numbers at all. -/
class Comparable (Value : Type) where
  /-- The order of the value and a whole number. -/
  compareInt? : Value → Int → Option Ordering
  /-- The table by which the values are judged. -/
  requirements : Kind → Except Violation (List Requirement)

instance {type : WholeType} : Comparable (Whole type) where
  compareInt? number bound :=
    some (compare number.value bound)
  requirements :=
    if type.isSigned then Kind.signedRequirements else Kind.unsignedRequirements

instance {format : Binary.Format} : Comparable (Binary format) where
  compareInt? :=
    Binary.compareInt?
  requirements :=
    Kind.signedRequirements

namespace Kind

/-- What a kind requires, in words. -/
def description : Kind → String
  | .positive => "positive number (> 0)"
  | .negative => "negative number (< 0)"
  | .nonPositive => "non-positive number (<= 0)"
  | .nonNegative => "non-negative number (>= 0)"
  | .nonZero => "non-zero number (!= 0)"
  | .nonEmptyString => "non-empty string"
  | .zeroToOne => "number in [0, 1]"
  | .minusOneToOne => "number in [-1, 1]"

/-- Judge a value by what the table of its type requires for a kind. -/
def judgeValue
    {Value : Type}
    [Comparable Value]
    (kind : Kind)
    (value : Value) :
    Except Violation Unit :=
  match Comparable.requirements Value kind with
  | .ok requirements =>
      firstFault
        (fun relation bound => relation.holdsIfComparable (Comparable.compareInt? value bound))
        requirements
  | .error fault => .error fault

/-- The predicate that judges numbers by the rule of a kind. -/
def predicate
    {Value : Type}
    [Comparable Value]
    (kind : Kind) :
    Predicate Value where
  typeName :=
    "safe_literals::refined::predicates::numeric::" ++ kind.name
  description :=
    kind.description
  check value :=
    (kind.judgeValue value).mapError Violation.valueMessage

end Kind

namespace Predicate

/-- The predicate of texts with at least one character. -/
def nonEmpty {Value : Type} (characters : Value → List Char) : Predicate Value where
  typeName :=
    "safe_literals::refined::predicates::string::NonEmpty"
  description :=
    Kind.description .nonEmptyString
  check value :=
    if (characters value).isEmpty then .error Violation.empty.valueMessage else .ok ()

/-- A predicate whose description is the name of its type. -/
def undescribed
    {Value : Type}
    (typeName : String)
    (check : Value → Except String Unit) :
    Predicate Value :=
  { typeName := typeName, description := typeName, check := check }

/-- The predicate of even numbers, a condition beyond the kinds that users may add. -/
def even {type : WholeType} (typeName : String) : Predicate (Whole type) :=
  undescribed typeName fun number =>
    if number.value % 2 = 0 then .ok () else .error "value must be even"

/-- The first predicate with a name. -/
def named?
    {Value : Type}
    (predicates : List (String × Predicate Value))
    (name : String) :
    Option (Predicate Value) :=
  (predicates.find? fun entry => entry.1 == name).map Prod.snd

end Predicate

end CheckedLiterals
