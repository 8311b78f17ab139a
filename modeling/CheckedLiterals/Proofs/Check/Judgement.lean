import CheckedLiterals.Proofs.Binary.Threshold
import CheckedLiterals.Proofs.Check.Verdict
import CheckedLiterals.Refined.ValueType

namespace CheckedLiterals

/-!
# What the kinds allow

Literals and values of all number types are judged by where they stand on a line
of whole numbers on which one stands at some unit.  What the rule of a kind allows
there is, for a floating-point number, a condition on the rational that was rounded
to it.
-/

open Binary (Format IsNearestTo)

namespace Kind

/-- Whether a kind allows a position on a line on which one stands at the unit. -/
def Allows (kind : Kind) (unit position : Int) : Prop :=
  match kind with
  | .positive => 0 < position
  | .negative => position < 0
  | .nonPositive => position ≤ 0
  | .nonNegative => 0 ≤ position
  | .nonZero => position ≠ 0
  | .nonEmptyString => False
  | .zeroToOne => position ≤ unit ∧ 0 ≤ position
  | .minusOneToOne => position ≤ unit ∧ -unit ≤ position

/-- Whether a kind allows whatever a rational is rounded to in a format. -/
def Admits (kind : Kind) (format : Format) (value : ℚ) : Prop :=
  match kind with
  | .positive => format.halfUnit < value
  | .negative => value < -format.halfUnit
  | .nonPositive => value ≤ format.halfUnit
  | .nonNegative => -format.halfUnit ≤ value
  | .nonZero => format.halfUnit < value ∨ value < -format.halfUnit
  | .nonEmptyString => False
  | .zeroToOne => value ≤ 1 + format.slack ∧ -format.halfUnit ≤ value
  | .minusOneToOne => value ≤ 1 + format.slack ∧ -(1 + format.slack) ≤ value

theorem ite_error_eq_ok_iff
    {breach : Prop}
    [Decidable breach]
    {fault : Violation}
    {next : Except Violation Unit} :
    (if breach then .error fault else next) = .ok () ↔ ¬breach ∧ next = .ok () := by
  split <;> simp [*]

/-- The rule of a kind is met where the kind allows the position. -/
theorem verdict_eq_ok_iff
    (kind : Kind)
    {unit position : Int} :
    kind.verdict (· * unit) position = .ok () ↔ kind.Allows unit position := by
  cases kind <;>
    simp [verdict, Allows, ite_error_eq_ok_iff]

/-- A literal is judged by where it stands. -/
theorem judgeLiteral_eq_ok_iff
    (kind : Kind)
    {number : LiteralNumber}
    {unit position : Int}
    (standsAt : ∀ bound : Int, bound.natAbs ≤ 1 →
      number.compareInt bound = compare position (bound * unit)) :
    kind.judgeLiteral number = .ok () ↔ kind.Allows unit position := by
  rw [← kind.verdict_eq_ok_iff, kind.judgeLiteral_eq_verdict standsAt]

/-- A whole number is judged as the whole number that it is, with a sign or without. -/
theorem judgeValue_whole
    (kind : Kind)
    {type : WholeType}
    (number : Whole type) :
    kind.judgeValue number = kind.verdict (fun bound => bound) number.value := by
  have standsAt : ∀ bound : Int, bound.natAbs ≤ 1 →
      Comparable.compareInt? number bound = some (compare number.value bound) :=
    fun _ _ => rfl
  cases signed : type.isSigned with
  | true =>
      apply judgeValue_eq_verdict_of_signed _ standsAt
      simp only [Comparable.requirements, signed, ↓reduceIte]
  | false =>
      have nonneg := number.holds.1
      rw [WholeType.least, signed] at nonneg
      apply judgeValue_eq_verdict_of_unsigned _ standsAt (by decide) (by simpa using nonneg)
      simp only [Comparable.requirements, signed, Bool.false_eq_true, ↓reduceIte]

theorem judgeValue_whole_eq_ok_iff
    (kind : Kind)
    {type : WholeType}
    (number : Whole type) :
    kind.judgeValue number = .ok () ↔ kind.Allows 1 number.value := by
  rw [judgeValue_whole, ← kind.verdict_eq_ok_iff]
  simp only [Int.mul_one]

theorem compareInt?_of_rank
    {format : Format}
    {number : Binary format}
    {rank : Int}
    (standsAt : number.rank? = some rank)
    (bound : Int)
    (small : bound.natAbs ≤ 1) :
    number.compareInt? bound = some (compare rank (bound * 2 ^ format.scale)) :=
  Binary.compareInt?_eq standsAt (small.trans Nat.one_le_two_pow)

/-- A floating-point number is judged by where it stands. -/
theorem judgeValue_eq_ok_iff_allows
    (kind : Kind)
    {format : Format}
    {number : Binary format}
    {rank : Int}
    (standsAt : number.rank? = some rank) :
    kind.judgeValue number = .ok () ↔ kind.Allows (2 ^ format.scale) rank := by
  rw [← kind.verdict_eq_ok_iff,
    judgeValue_eq_verdict_of_signed rfl (compareInt?_of_rank standsAt)]

/-- A position is allowed where a rational is admitted if they cross the bounds together. -/
theorem allows_iff_admits
    (kind : Kind)
    {format : Format}
    {value : ℚ}
    {unit position : Int}
    (nonpos : position ≤ 0 ↔ value ≤ format.halfUnit)
    (nonneg : 0 ≤ position ↔ -format.halfUnit ≤ value)
    (atMostOne : position ≤ unit ↔ value ≤ 1 + format.slack)
    (atLeastMinusOne : -unit ≤ position ↔ -(1 + format.slack) ≤ value) :
    kind.Allows unit position ↔ kind.Admits format value := by
  cases kind with
  | positive => simp only [Allows, Admits, ← not_le, nonpos]
  | negative => simp only [Allows, Admits, ← not_le, nonneg]
  | nonPositive => exact nonpos
  | nonNegative => exact nonneg
  | nonZero =>
      simp only [Allows, Admits, ← not_le, ← nonpos, ← nonneg]
      omega
  | nonEmptyString => exact Iff.rfl
  | zeroToOne => exact and_congr atMostOne nonneg
  | minusOneToOne => exact and_congr atMostOne atLeastMinusOne

/-- Where a nearest number may stand is a condition on the rational. -/
theorem allows_rank_iff
    (kind : Kind)
    {format : Format}
    {number : Binary format}
    {value : ℚ}
    {rank : Int}
    (nearest : number.IsNearestTo value)
    (standsAt : number.rank? = some rank) :
    kind.Allows (2 ^ format.scale) rank ↔ kind.Admits format value := by
  exact kind.allows_iff_admits (nearest.rank_nonpos_iff standsAt)
    (nearest.rank_nonneg_iff standsAt) (nearest.rank_le_one_iff standsAt)
    (nearest.minus_one_le_rank_iff standsAt)

/-- A floating-point number is judged as its kind judges the rational that it is nearest to. -/
theorem judgeValue_binary_eq_ok_iff
    (kind : Kind)
    {format : Format}
    {number : Binary format}
    {value : ℚ}
    (nearest : number.IsNearestTo value) :
    kind.judgeValue number = .ok () ↔ kind.Admits format value := by
  obtain ⟨rank, standsAt⟩ := nearest.exists_rank
  rw [← allows_rank_iff kind nearest standsAt, kind.judgeValue_eq_ok_iff_allows standsAt]

/-- Whole numbers are far enough from the margins of rounding. -/
theorem allows_one_iff_admits
    (kind : Kind)
    (format : Format)
    (value : Int) :
    kind.Allows 1 value ↔ kind.Admits format value := by
  have halfPositive := format.halfUnit_pos
  have halfBelowOne := format.halfUnit_lt_one
  have slackPositive := format.slack_pos
  have slackBelowOne := format.slack_lt_one
  have nonpos : value ≤ 0 ↔ (value : ℚ) ≤ format.halfUnit := by
    constructor
    · intro bound
      exact (Int.cast_nonpos.mpr bound).trans halfPositive.le
    · intro bound
      exact Int.lt_add_one_iff.mp (by exact_mod_cast bound.trans_lt halfBelowOne)
  have nonneg : 0 ≤ value ↔ -format.halfUnit ≤ (value : ℚ) := by
    constructor
    · intro bound
      exact (neg_nonpos.mpr halfPositive.le).trans (by exact_mod_cast bound)
    · intro bound
      have : (-1 : ℚ) < value := (neg_lt_neg halfBelowOne).trans_le bound
      exact Int.add_one_le_iff.mpr (by exact_mod_cast this)
  have atMostOne : value ≤ 1 ↔ (value : ℚ) ≤ 1 + format.slack := by
    constructor
    · intro bound
      have : (value : ℚ) ≤ 1 := by exact_mod_cast bound
      linarith
    · intro bound
      have : (value : ℚ) < 2 := by linarith
      exact Int.lt_add_one_iff.mp (by exact_mod_cast this)
  have atLeastMinusOne : -1 ≤ value ↔ -(1 + format.slack) ≤ (value : ℚ) := by
    constructor
    · intro bound
      have : (-1 : ℚ) ≤ value := by exact_mod_cast bound
      linarith
    · intro bound
      have : (-2 : ℚ) < value := by linarith
      exact Int.add_one_le_iff.mpr (by exact_mod_cast this)
  exact kind.allows_iff_admits nonpos nonneg atMostOne atLeastMinusOne

end Kind

end CheckedLiterals
