namespace CheckedLiterals

/-!
# Kinds of refinement

A refinement is one of a closed set of conditions that a literal can be checked
against.  Every kind has two names: the name of the constructor that wraps an
accepted literal, and the name of the macro that checks it.  Both names select
the kind again, and no two kinds share a name.
-/

/-- A condition that a literal can be checked against. -/
inductive Kind where
  | positive
  | negative
  | nonPositive
  | nonNegative
  | nonZero
  | nonEmptyString
  | zeroToOne
  | minusOneToOne
  deriving Repr, DecidableEq

namespace Kind

/-- Every kind, in the order in which kinds are listed. -/
def all : List Kind :=
  [.positive, .negative, .nonPositive, .nonNegative, .nonZero,
    .nonEmptyString, .zeroToOne, .minusOneToOne]

/-- The list of kinds leaves none out. -/
theorem mem_all (kind : Kind) : kind ∈ all := by
  cases kind <;> decide

/-- The constructor that wraps a literal accepted for this kind. -/
def name : Kind → String
  | .positive => "Positive"
  | .negative => "Negative"
  | .nonPositive => "NonPositive"
  | .nonNegative => "NonNegative"
  | .nonZero => "NonZero"
  | .nonEmptyString => "NonEmptyString"
  | .zeroToOne => "ZeroToOne"
  | .minusOneToOne => "MinusOneToOne"

/-- The macro that checks literals against this kind. -/
def macroName : Kind → String
  | .positive => "positive"
  | .negative => "negative"
  | .nonPositive => "non_positive"
  | .nonNegative => "non_negative"
  | .nonZero => "non_zero"
  | .nonEmptyString => "non_empty_string"
  | .zeroToOne => "zero_to_one"
  | .minusOneToOne => "minus_one_to_one"

/-- Whether the literal has to be a number. -/
def isNumeric : Kind → Bool
  | .nonEmptyString => false
  | _ => true

/-- Only the kind of strings takes what is not a number. -/
theorem eq_nonEmptyString_of_isNumeric
    {kind : Kind}
    (textual : kind.isNumeric = false) :
    kind = .nonEmptyString := by
  cases kind with
  | nonEmptyString => rfl
  | _ => cases textual

/-- The kind with the given constructor name or macro name. -/
def ofName? (text : String) : Option Kind :=
  all.find? fun kind => kind.name == text || kind.macroName == text

/-- The complaint about a name that selects no kind. -/
def unknownNameMessage (text : String) : String :=
  "unknown refinement " ++ "\x60" ++ text ++ "\x60"

/-- A constructor name selects its kind. -/
theorem ofName?_name (kind : Kind) : ofName? kind.name = some kind := by
  cases kind <;> decide

/-- A macro name selects its kind. -/
theorem ofName?_macroName (kind : Kind) : ofName? kind.macroName = some kind := by
  cases kind <;> decide

end Kind

end CheckedLiterals
