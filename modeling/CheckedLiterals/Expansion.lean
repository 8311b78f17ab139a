import CheckedLiterals.Check

namespace CheckedLiterals

/-!
# Expansions

An accepted literal expands to a call of the constructor of its kind.  The call
checks the value again when it runs, and the branch for a refusal cannot be
reached.  Only the first argument of a macro is looked at.
-/

/-- A literal and the kind whose constructor is called on it. -/
structure Expansion where
  kind : Kind
  literal : String
  deriving Repr, DecidableEq

namespace Expansion

/-- The path of the library that the emitted code refers to. -/
def libraryPath : String :=
  "::safe_literals"

/-- The constructor that is called. -/
def constructorName (expansion : Expansion) : String :=
  expansion.kind.name

/-- The emitted code in front of the literal. -/
def opening : Kind → String
  | .nonEmptyString =>
      libraryPath ++ "::refined::NonEmptyString::new(::std::string::String::from("
  | kind =>
      libraryPath ++ "::refined::Refined::<_, " ++ libraryPath ++ "::refined::" ++ kind.name ++
        ">::new("

/-- In front of a number the emitted code is the same for every kind, but for its name. -/
theorem opening_eq_of_isNumeric
    {kind : Kind}
    (numeric : kind.isNumeric = true) :
    opening kind =
      libraryPath ++ "::refined::Refined::<_, " ++ libraryPath ++ "::refined::" ++ kind.name ++
        ">::new(" := by
  cases kind with
  | nonEmptyString => cases numeric
  | _ => rfl

/-- The emitted code that takes the value out of the constructor's answer. -/
def unwrapping : String :=
  ".unwrap_or_else(|_| ::core::unreachable!(\"refined literal was checked at compile time\"))"

/-- The emitted code behind the literal. -/
def closing : Kind → String
  | .nonEmptyString => "))" ++ unwrapping
  | _ => ")" ++ unwrapping

/-- The emitted code. -/
def render (expansion : Expansion) : String :=
  opening expansion.kind ++ expansion.literal ++ closing expansion.kind

end Expansion

/-- The argument that is checked: the first one. -/
def firstArgument : List String → Except Rejection String
  | [] => .error .missingArguments
  | first :: _ => .ok first

/-- Check the first argument and, if it is accepted, expand to the constructor call on it. -/
def Kind.expand (kind : Kind) (arguments : List String) : Except Rejection Expansion :=
  match firstArgument arguments with
  | .error rejection => .error rejection
  | .ok argument =>
      match kind.check argument with
      | .error rejection => .error rejection
      | .ok () => .ok { kind := kind, literal := argument }

/-- What is recorded about an expansion. -/
inductive Event where
  | ignoredArguments (count : Nat)
  | accepted (kind : Kind) (literal : String)
  | rejected (kind : Kind) (rejection : Rejection)
  deriving Repr, DecidableEq

namespace Event

/-- The text of a record. -/
def message : Event → String
  | .ignoredArguments _ => "ignoring extra macro arguments"
  | .accepted .. => "literal accepted"
  | .rejected .. => "literal rejected"

/-- The record of an outcome. -/
def ofOutcome (kind : Kind) : Except Rejection Expansion → Event
  | .ok expansion => .accepted kind expansion.literal
  | .error rejection => .rejected kind rejection

/-- The record of arguments behind the first one. -/
def ofExtraArguments : List String → List Event
  | _ :: extra :: rest => [.ignoredArguments (extra :: rest).length]
  | _ => []

end Event

/-- What is recorded while the arguments are expanded, in order. -/
def Kind.trace (kind : Kind) (arguments : List String) : List Event :=
  Event.ofExtraArguments arguments ++ [Event.ofOutcome kind (kind.expand arguments)]

end CheckedLiterals
