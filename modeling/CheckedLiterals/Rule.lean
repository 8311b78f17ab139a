import CheckedLiterals.Kind
import CheckedLiterals.Rejection

namespace CheckedLiterals

/-!
# The rules behind the kinds

A numeric kind asks a value to stand in certain relations to whole numbers.  One
table of these requirements is for numbers with a sign.  Numbers without a sign
have a table of their own, which leaves out what none of them can break.
Requirements are tried in order and the first that fails is reported, so a range
reports its upper bound first.
-/

/-- How a value may have to stand to a bound. -/
inductive Relation where
  | above
  | below
  | atMost
  | atLeast
  | equals
  | differs
  deriving Repr, DecidableEq

namespace Relation

/-- Whether a value that compares so with the bound stands in the relation to it. -/
def holds : Relation → Ordering → Bool
  | .above, order => order == .gt
  | .below, order => order == .lt
  | .atMost, order => order != .gt
  | .atLeast, order => order != .lt
  | .equals, order => order == .eq
  | .differs, order => order != .eq

/-- A value that does not compare with the bound differs from it, and no more can be said. -/
def holdsIfComparable (relation : Relation) : Option Ordering → Bool
  | some order => relation.holds order
  | none => relation == .differs

end Relation

/-- One relation to one bound, with the fault of a value that does not stand in it. -/
structure Requirement where
  relation : Relation
  bound : Int
  fault : Violation
  deriving Repr, DecidableEq

/-- What a kind requires of a number that may have a sign; no number is a string. -/
def Kind.signedRequirements : Kind → Except Violation (List Requirement)
  | .positive => .ok [⟨.above, 0, .notPositive⟩]
  | .negative => .ok [⟨.below, 0, .notNegative⟩]
  | .nonPositive => .ok [⟨.atMost, 0, .positive⟩]
  | .nonNegative => .ok [⟨.atLeast, 0, .negative⟩]
  | .nonZero => .ok [⟨.differs, 0, .zero⟩]
  | .nonEmptyString => .error .empty
  | .zeroToOne => .ok [⟨.atMost, 1, .greaterThanOne⟩, ⟨.atLeast, 0, .lessThanZero⟩]
  | .minusOneToOne => .ok [⟨.atMost, 1, .greaterThanOne⟩, ⟨.atLeast, -1, .lessThanMinusOne⟩]

/-- What a kind requires of a number without a sign; none is below zero. -/
def Kind.unsignedRequirements : Kind → Except Violation (List Requirement)
  | .positive => .ok [⟨.above, 0, .notPositive⟩]
  | .negative => .error .notNegative
  | .nonPositive => .ok [⟨.equals, 0, .positive⟩]
  | .nonNegative => .ok []
  | .nonZero => .ok [⟨.differs, 0, .zero⟩]
  | .nonEmptyString => .error .empty
  | .zeroToOne => .ok [⟨.atMost, 1, .greaterThanOne⟩]
  | .minusOneToOne => .ok [⟨.atMost, 1, .greaterThanOne⟩]

/-- Report the first requirement that the test refuses. -/
def firstFault
    (test : Relation → Int → Bool) :
    List Requirement → Except Violation Unit
  | [] => .ok ()
  | requirement :: rest =>
      if test requirement.relation requirement.bound then
        firstFault test rest
      else
        .error requirement.fault

/-- Report a fault unless a condition holds. -/
def require (holds : Bool) (fault : Violation) : Except Violation Unit :=
  if holds then .ok () else .error fault

end CheckedLiterals
