import CheckedLiterals.Refined.Domain

namespace CheckedLiterals

/-!
# Collections of refined values

A collection is a list of refined values of one type under one predicate.  Operations
change it; they are given values and functions.  A step is given texts instead: it
either answers and gives the next collection, which some operation may have changed,
or fails and leaves the collection as it was.
-/

/-- Refined values in order. -/
abbrev Collection (Value : Type) := List (Refined Value)

/-- Why a step fails. -/
inductive StepError where
  | noSuchSlot
  | badValue
  | unsupported
  | refused (message : String)
  | malformed
  deriving Repr, DecidableEq

/-- One operation that may change a collection; slots are counted from zero. -/
inductive Operation (Value : Type) where
  | insert (value : Value)
  | insertTrusted (value : Value)
  | duplicate (slot : Nat)
  | takeOut (slot : Nat)
  | change (slot : Nat) (function : Value → Value)
  | sort
  | decode (reader : Reader Value) (text : List Char)

/-- One step on a collection, with what it needs as text. -/
inductive Step where
  | insert (value : String)
  | insertTrusted (value : String)
  | describe
  | duplicate (slot : Nat)
  | get (slot : Nat)
  | takeOut (slot : Nat)
  | change (slot : Nat) (name : String) (argument : Option String)
  | compare (left right : Nat)
  | sort
  | countDistinct
  | write (slot : Nat) (template : String)
  | encode (slot : Nat)
  | decode (text : String)
  deriving Repr, DecidableEq

/-- What a step answers. -/
inductive Answer where
  | done
  | text (text : String)
  | views (text : String)
  | order (order : Option Ordering) (isTotal : Bool)
  | count (count : Nat)
  deriving Repr, DecidableEq

namespace Collection

variable {Value : Type}

/-- The refined value in a slot. -/
def slot? (collection : Collection Value) (slot : Nat) : Except StepError (Refined Value) :=
  match collection[slot]? with
  | some refined => .ok refined
  | none => .error .noSuchSlot

/-- Give the outcome of a check the shape of a step's outcome. -/
def accepted : Except String (Refined Value) → Except StepError (Refined Value)
  | .ok refined => .ok refined
  | .error message => .error (.refused message)

/-- Give the outcome of decoding the shape of a step's outcome. -/
def decoded : Except DecodeError (Refined Value) → Except StepError (Refined Value)
  | .ok refined => .ok refined
  | .error .malformed => .error .malformed
  | .error (.refused message) => .error (.refused message)

variable [Domain Value]

/-- The value that a text stands for. -/
def value? (text : String) : Except StepError Value :=
  match Domain.ofText? text with
  | some value => .ok value
  | none => .error .badValue

/-- The second value of a change, if one is given. -/
def argument? : Option String → Except StepError (Option Value)
  | none => .ok none
  | some text => (value? text).map some

/-- The function that a change applies. -/
def function? (name : String) (argument : Option Value) : Except StepError (Value → Value) :=
  match (Change.ofName? name).bind (Domain.change? · argument) with
  | some function => .ok function
  | none => .error .unsupported

/-- Whether a refined value does not come behind another one. -/
def precedes (left right : Refined Value) : Bool :=
  Domain.compare? left.value right.value != some .gt

/-- The refined values in ascending order; equal ones keep their order. -/
def sorted (collection : Collection Value) : Collection Value :=
  collection.mergeSort precedes

/-- How many different values there are. -/
def distinctCount : Collection Value → Nat
  | [] => 0
  | refined :: rest =>
      distinctCount rest +
        (if rest.any fun other => Domain.compare? refined.value other.value == some .eq then
          0
        else
          1)

/-- The collection after an operation that succeeds. -/
def perform
    (predicate : Predicate Value)
    (collection : Collection Value) :
    Operation Value → Except StepError (Collection Value)
  | .insert value => do
      let refined ← accepted (Refined.check predicate value)
      return collection ++ [refined]
  | .insertTrusted value => return collection ++ [Refined.trust value]
  | .duplicate slot => do
      let refined ← collection.slot? slot
      return collection ++ [refined]
  | .takeOut slot => do
      let _ ← collection.slot? slot
      return collection.eraseIdx slot
  | .change slot function => do
      let refined ← collection.slot? slot
      let changed ← accepted (refined.tryMap predicate function)
      return collection.set slot changed
  | .sort => if Domain.isTotal Value then return sorted collection else throw .unsupported
  | .decode reader text => do
      let refined ← decoded (Refined.decode predicate reader text)
      return collection ++ [refined]

/-- The collection after a step, and the answer; a failed step leaves the collection alone. -/
def step
    (predicate : Predicate Value)
    (collection : Collection Value) :
    Step → Except StepError (Answer × Collection Value)
  | .insert text => do
      let value ← value? text
      let after ← perform predicate collection (.insert value)
      return (.done, after)
  | .insertTrusted text => do
      let value ← value? text
      let after ← perform predicate collection (.insertTrusted value)
      return (.done, after)
  | .describe => return (.text predicate.description, collection)
  | .duplicate slot => do
      let after ← perform predicate collection (.duplicate slot)
      return (.done, after)
  | .get slot => do
      let refined ← collection.slot? slot
      return (.views (Domain.shown refined.value), collection)
  | .takeOut slot => do
      let refined ← collection.slot? slot
      let after ← perform predicate collection (.takeOut slot)
      return (.text (Domain.shown refined.value), after)
  | .change slot name argument => do
      let _ ← collection.slot? slot
      let argument ← argument? argument
      let function ← function? name argument
      let after ← perform predicate collection (.change slot function)
      return (.done, after)
  | .compare left right => do
      let left ← collection.slot? left
      let right ← collection.slot? right
      return (.order (Domain.compare? left.value right.value) (Domain.isTotal Value), collection)
  | .sort => do
      let after ← perform predicate collection .sort
      return (.done, after)
  | .countDistinct =>
      if Domain.isTotal Value then
        return (.count (distinctCount collection), collection)
      else
        throw .unsupported
  | .write slot template => do
      let refined ← collection.slot? slot
      match Template.ofText? template with
      | some template =>
          let text :=
            template.writeRefined predicate.typeName (Domain.write template refined.value)
          return (.text (String.ofList text), collection)
      | none => throw .unsupported
  | .encode slot => do
      let refined ← collection.slot? slot
      return (.text (String.ofList (refined.serialize Domain.encode)), collection)
  | .decode text =>
      match (Domain.reader? : Option (Reader Value)) with
      | some reader => do
          let after ← perform predicate collection (.decode reader text.toList)
          return (.done, after)
      | none => throw .unsupported

/-- The collection after a step, whether it succeeds or fails. -/
def next
    (predicate : Predicate Value)
    (collection : Collection Value)
    (action : Step) :
    Collection Value :=
  match step predicate collection action with
  | .ok (_, after) => after
  | .error _ => collection

/-- The outcome of every step of a run, with the collection after it. -/
def run
    (predicate : Predicate Value)
    (collection : Collection Value) :
    List Step → List (Except StepError Answer × Collection Value)
  | [] => []
  | action :: rest =>
      let after := next predicate collection action
      ((step predicate collection action).map Prod.fst, after) :: run predicate after rest

end Collection

end CheckedLiterals
