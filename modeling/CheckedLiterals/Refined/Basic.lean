import CheckedLiterals.Refined.Predicate

namespace CheckedLiterals

/-!
# Refined values

A refined value was accepted by a predicate, or was taken on trust.  Whatever is
made from a value by a function is checked again, so trust ends there.  It ends too
where a value is serialized, for that leaves the bare value, and whatever is
deserialized is checked.
-/

/-- How a refined value came to be. -/
inductive Provenance where
  | checked
  | trusted
  deriving Repr, DecidableEq

/-- A value that a predicate has accepted or that was taken on trust. -/
structure Refined (Value : Type) where
  value : Value
  provenance : Provenance
  deriving Repr, DecidableEq

namespace Refined

variable {Value : Type}

/-- Refine a value that the predicate accepts; otherwise give what the predicate says. -/
def check (predicate : Predicate Value) (value : Value) : Except String (Refined Value) :=
  match predicate.check value with
  | .ok () => .ok { value := value, provenance := .checked }
  | .error message => .error message

/-- Refine a value without asking the predicate. -/
def trust (value : Value) : Refined Value :=
  { value := value, provenance := .trusted }

/-- Refine what a function makes of the value, if the predicate accepts it. -/
def tryMap
    (predicate : Predicate Value)
    (refined : Refined Value)
    (change : Value → Value) :
    Except String (Refined Value) :=
  check predicate (change refined.value)

/-- Write a refined value in a format: it is written as its bare value. -/
def serialize
    {Output : Type}
    (encode : Value → Output)
    (refined : Refined Value) :
    Output :=
  encode refined.value

/--
Read a refined value in a format: its bare value is read, and the predicate has to accept it.
What the predicate says otherwise is a failure of the format.
-/
def deserialize
    {Input Failure : Type}
    (custom : String → Failure)
    (predicate : Predicate Value)
    (decode : Input → Except Failure (Value × Input))
    (input : Input) :
    Except Failure (Refined Value × Input) :=
  match decode input with
  | .error failure => .error failure
  | .ok (value, rest) =>
      match check predicate value with
      | .error message => .error (custom message)
      | .ok refined => .ok (refined, rest)

end Refined

end CheckedLiterals
