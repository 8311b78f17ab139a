import CheckedLiterals.Check
import CheckedLiterals.Refined.Predicate
import Mathlib.Order.Compare
import Mathlib.Order.Lattice

namespace CheckedLiterals

/-!
# The rule of a kind

What a kind asks of a number is one rule on any ordered line on which whole numbers
have a place, with the fault that each breach of it is reported as.  Literals are
judged by this rule, values with a sign are, and values without a sign are too,
although their table leaves out what cannot fail.  The rule looks at nothing but how
the number compares with the whole numbers from minus one to one.
-/

section Rule

variable {Line : Type*} [LinearOrder Line]

/-- Whether a position stands in a relation to a bound. -/
def Relation.Stands (relation : Relation) (position bound : Line) : Prop :=
  match relation with
  | .above => bound < position
  | .below => position < bound
  | .atMost => position ≤ bound
  | .atLeast => bound ≤ position
  | .equals => position = bound
  | .differs => position ≠ bound

theorem Relation.holds_compare_iff
    (relation : Relation)
    (position bound : Line) :
    relation.holds (compare position bound) = true ↔ relation.Stands position bound := by
  cases relation <;>
    simp only [holds, Stands, beq_iff_eq, bne_iff_ne, ne_eq, compare_gt_iff_gt, compare_lt_iff_lt,
      compare_eq_iff_eq, not_lt]

/-- The rule of a kind: what it says of a position, where of a range the upper bound comes first. -/
def Kind.verdict (kind : Kind) (place : Int → Line) (position : Line) : Except Violation Unit :=
  match kind with
  | .positive => if place 0 < position then .ok () else .error .notPositive
  | .negative => if position < place 0 then .ok () else .error .notNegative
  | .nonPositive => if position ≤ place 0 then .ok () else .error .positive
  | .nonNegative => if place 0 ≤ position then .ok () else .error .negative
  | .nonZero => if position ≠ place 0 then .ok () else .error .zero
  | .nonEmptyString => .error .empty
  | .zeroToOne =>
      if place 1 < position then
        .error .greaterThanOne
      else if position < place 0 then
        .error .lessThanZero
      else
        .ok ()
  | .minusOneToOne =>
      if place 1 < position then
        .error .greaterThanOne
      else if position < place (-1) then
        .error .lessThanMinusOne
      else
        .ok ()

end Rule

/-- Two tests report one fault if they agree on the requirements. -/
theorem firstFault_congr
    {test other : Relation → Int → Bool}
    {requirements : List Requirement}
    (same : ∀ requirement ∈ requirements,
      test requirement.relation requirement.bound =
        other requirement.relation requirement.bound) :
    firstFault test requirements = firstFault other requirements := by
  induction requirements with
  | nil => rfl
  | cons requirement rest restSame =>
      rw [List.forall_mem_cons] at same
      rw [firstFault, firstFault, same.1, restSame same.2]

theorem require_bind
    (holds : Bool)
    (fault : Violation)
    (next : Except Violation Unit) :
    (require holds fault >>= fun _ => next) = if holds then next else .error fault := by
  cases holds <;> rfl

namespace Kind

variable
  {Line : Type*}
  [LinearOrder Line]
  {place : Int → Line}
  {position : Line}

/-- The rule looks at nothing but how a position compares with small whole numbers. -/
theorem verdict_congr
    (kind : Kind)
    {OtherLine : Type*}
    [LinearOrder OtherLine]
    {otherPlace : Int → OtherLine}
    {other : OtherLine}
    (same : ∀ bound : Int, bound.natAbs ≤ 1 →
      compare position (place bound) = compare other (otherPlace bound)) :
    kind.verdict place position = kind.verdict otherPlace other := by
  have stands : ∀ (relation : Relation) (bound : Int), bound.natAbs ≤ 1 →
      (relation.Stands position (place bound) ↔ relation.Stands other (otherPlace bound)) := by
    intro relation bound small
    rw [← relation.holds_compare_iff, ← relation.holds_compare_iff, same bound small]
  have above := stands .above
  have below := stands .below
  have atMost := stands .atMost
  have atLeast := stands .atLeast
  have differs := stands .differs
  simp only [Relation.Stands] at above below atMost atLeast differs
  cases kind <;>
    simp [verdict, above, below, atMost, atLeast, differs]

/-- A literal is judged by the rule, if it compares with small whole numbers as a position. -/
theorem judgeLiteral_eq_verdict
    (kind : Kind)
    {number : LiteralNumber}
    (standsAt : ∀ bound : Int, bound.natAbs ≤ 1 →
      number.compareInt bound = compare position (place bound)) :
    kind.judgeLiteral number = kind.verdict place position := by
  have zero := standsAt 0 (by decide)
  have one := standsAt 1 (by decide)
  have minusOne := standsAt (-1) (by decide)
  cases kind <;>
    simp only [judgeLiteral, verdict, LiteralNumber.isPositive, LiteralNumber.isNegative,
      LiteralNumber.isZero, LiteralNumber.isAtMost, LiteralNumber.isAtLeast, zero, one, minusOne,
      require_bind] <;>
    simp [require, ← not_le, ite_not, compare_gt_iff_gt, compare_lt_iff_lt]

variable
  {Value : Type}
  [Comparable Value]
  {kind : Kind}
  {value : Value}

/-- A value is judged by its table as a position that compares with the bounds as it does. -/
theorem judgeValue_eq_firstFault
    {requirements : List Requirement}
    (table : Comparable.requirements Value kind = .ok requirements)
    (small : ∀ requirement ∈ requirements, requirement.bound.natAbs ≤ 1)
    (standsAt : ∀ bound : Int, bound.natAbs ≤ 1 →
      Comparable.compareInt? value bound = some (compare position (place bound))) :
    kind.judgeValue value =
      firstFault (fun relation bound => relation.holds (compare position (place bound)))
        requirements := by
  simp only [judgeValue, table]
  apply firstFault_congr
  intro requirement member
  rw [standsAt _ (small requirement member), Relation.holdsIfComparable]

/-- A value with a sign is judged by the rule. -/
theorem judgeValue_eq_verdict_of_signed
    (table : Comparable.requirements Value kind = kind.signedRequirements)
    (standsAt : ∀ bound : Int, bound.natAbs ≤ 1 →
      Comparable.compareInt? value bound = some (compare position (place bound))) :
    kind.judgeValue value = kind.verdict place position := by
  cases kind with
  | nonEmptyString => simp only [judgeValue, table, signedRequirements, verdict]
  | _ =>
      rw [signedRequirements] at table
      rw [judgeValue_eq_firstFault table (by simp) standsAt]
      simp [firstFault, verdict, Relation.holds_compare_iff, Relation.Stands, ← not_le, ite_not]

/-- So is a value without a sign, though its table leaves out what cannot fail. -/
theorem judgeValue_eq_verdict_of_unsigned
    (table : Comparable.requirements Value kind = kind.unsignedRequirements)
    (standsAt : ∀ bound : Int, bound.natAbs ≤ 1 →
      Comparable.compareInt? value bound = some (compare position (place bound)))
    (ordered : place (-1) ≤ place 0)
    (nonneg : place 0 ≤ position) :
    kind.judgeValue value = kind.verdict place position := by
  cases kind with
  | nonEmptyString => simp only [judgeValue, table, unsignedRequirements, verdict]
  | negative =>
      simp only [judgeValue, table, unsignedRequirements, verdict, nonneg.not_gt, ↓reduceIte]
  | _ =>
      rw [unsignedRequirements] at table
      rw [judgeValue_eq_firstFault table (by simp) standsAt]
      have aboveMinusOne := ordered.trans nonneg
      have isZero : position = place 0 ↔ position ≤ place 0 :=
        ⟨fun same => same.le, fun atMost => le_antisymm atMost nonneg⟩
      simp [firstFault, verdict, Relation.holds_compare_iff, Relation.Stands, ← not_le, ite_not,
        nonneg, aboveMinusOne, isZero]

end Kind

end CheckedLiterals
