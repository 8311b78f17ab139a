import CheckedLiterals.Proofs.Binary.Narrowing
import CheckedLiterals.Proofs.Check.WholeSpelling

namespace CheckedLiterals

/-!
# Narrowing once is enough

A literal's float that was narrowed is a number of single width, and narrowing keeps order and
sign on the way there.  So the second judgement of a float is already that of what it was
narrowed to, and what the check accepts it accepts again once it was narrowed.
-/

namespace LiteralNumber

theorem narrowed?_float (number : Binary64) :
    (LiteralNumber.float number).narrowed? = some (.float number.narrowed) :=
  rfl

/-- A float is not on the other side of zero than its sign tells. -/
theorem compareInt_float_ne_of_sign (number : Binary64) :
    (LiteralNumber.float number).compareInt 0 ≠
      if Binary.isNegative number then .gt else .lt := by
  cases standsAt : number.rank? with
  | none =>
      rw [compareInt, Binary.compareInt?, Binary.compare?, standsAt]
      cases Binary.isNegative number <;> decide
  | some rank =>
      have side := Binary.rank_sign standsAt
      rw [compareInt_float standsAt 0 (by decide), Int.zero_mul]
      cases sign : Binary.isNegative number with
      | true =>
          rw [sign, if_pos rfl] at side
          rw [if_pos rfl, ne_eq, compare_gt_iff_gt]
          exact side.not_gt
      | false =>
          rw [sign, if_neg (by decide)] at side
          rw [if_neg (by decide), ne_eq, compare_lt_iff_lt]
          exact side.not_gt

/-- Narrowing carries no float to the other side of zero, because it keeps the sign. -/
theorem sides_narrowed (number : Binary64) :
    ((LiteralNumber.float number).isNegative = true →
        (LiteralNumber.float number.narrowed).isPositive = false) ∧
      ((LiteralNumber.float number).isPositive = true →
        (LiteralNumber.float number.narrowed).isNegative = false) := by
  have side := compareInt_float_ne_of_sign number
  have narrowedSide := compareInt_float_ne_of_sign number.narrowed
  rw [Binary.isNegative_narrowed] at narrowedSide
  simp only [isNegative, isPositive, beq_iff_eq, beq_eq_false_iff_ne]
  cases sign : Binary.isNegative number with
  | true =>
      rw [sign, if_pos rfl] at side narrowedSide
      exact ⟨fun _ => narrowedSide, fun positive => absurd positive side⟩
  | false =>
      rw [sign, if_neg (by decide)] at side narrowedSide
      exact ⟨fun negative => absurd negative side, fun _ => narrowedSide⟩

end LiteralNumber

/-- What a kind accepts, it accepts again once it was narrowed. -/
theorem Kind.checkNumber_narrowed
    {kind : Kind}
    {number : Binary64}
    (accepted : kind.checkNumber (.float number) = .ok ()) :
    kind.checkNumber (.float number.narrowed) = .ok () := by
  rw [checkNumber_float] at accepted ⊢
  cases judged : kind.judgeLiteral (.float number) with
  | error fault =>
      rw [judged] at accepted
      cases accepted
  | ok =>
      rw [judged] at accepted
      -- What is left of the check is the judgement of the narrowed number.
      have again : kind.judgeLiteral (.float number.narrowed) = .ok () := accepted
      have twice : (number.narrowed.convert .binary32).convert .binary64 = number.narrowed :=
        Binary.narrowed_narrowed number
      rw [twice, again]
      rfl

namespace LiteralNumber

/--
Narrowing a float to single width keeps every order, and for a float that is a number, also an
infinity, it changes nothing the second time, commutes with a change of sign and keeps the
sign, so it makes nothing positive of what is negative, nor the other way round.  It leaves a
float as it is, with the sign of a zero, just where a number of single width has its exact
value.  And whatever a kind accepts, it accepts again once it was narrowed.
-/
theorem narrowed?_retracts :
    (∀ number : Binary64,
        (LiteralNumber.float number).narrowed? = some (.float number.narrowed)) ∧
      (∀ left right : Binary64,
        left.IsAtMost right → left.narrowed.IsAtMost right.narrowed) ∧
      ∀ number : Binary64,
        number ≠ .nan →
          number.narrowed.narrowed = number.narrowed ∧
            number.neg.narrowed = number.narrowed.neg ∧
            number.narrowed.isNegative = number.isNegative ∧
            ((LiteralNumber.float number).isNegative = true →
              (LiteralNumber.float number.narrowed).isPositive = false) ∧
            ((LiteralNumber.float number).isPositive = true →
              (LiteralNumber.float number.narrowed).isNegative = false) ∧
            (number.narrowed = number ↔
              ∃ single : Binary32, single.extended? = number.extended?) ∧
            ∀ kind : Kind,
              kind.checkNumber (.float number) = .ok () →
                kind.checkNumber (.float number.narrowed) = .ok () := by
  refine ⟨narrowed?_float, fun _ _ ordered => ordered.narrowed, ?_⟩
  intro number _
  obtain ⟨notPositive, notNegative⟩ := sides_narrowed number
  exact ⟨Binary.narrowed_narrowed number, Binary.narrowed_neg number,
    Binary.isNegative_narrowed number, notPositive, notNegative, Binary.narrowed_eq_self_iff,
    fun _ => Kind.checkNumber_narrowed⟩

/--
Minus one and a half times the least number of single width is a tie and comes to minus twice
that number, minus a quarter of it comes to the negative zero, and the greatest number of
double width to infinity.
-/
theorem narrowed?_retracts_borders :
    let tie : Binary64 := .finite true (3 * 2 ^ 924) (by decide +kernel)
    let twice : Binary64 := .finite true (2 ^ 926) (by decide +kernel)
    let quarter : Binary64 := .finite true (2 ^ 923) (by decide +kernel)
    let greatest : Binary64 := .finite false ((2 ^ 53 - 1) * 2 ^ 2045) (by decide +kernel)
    tie ≠ .nan ∧
      greatest ≠ .nan ∧
      tie.IsAtMost quarter ∧
      tie.narrowed = twice ∧
      quarter.narrowed = Binary.zero true ∧
      twice.IsAtMost (Binary.zero true) ∧
      twice.narrowed = twice ∧
      (LiteralNumber.float tie).isNegative = true ∧
      (LiteralNumber.float twice).isPositive = false ∧
      Kind.checkNumber .negative (.float tie) = .ok () ∧
      Kind.checkNumber .negative (.float twice) = .ok () ∧
      greatest.narrowed = .infinite false ∧
      greatest.neg.narrowed = .infinite true ∧
      (LiteralNumber.float greatest).isPositive = true ∧
      (LiteralNumber.float (.infinite false)).isNegative = false := by
  intro tie twice quarter greatest
  have tieIsNumber : tie ≠ .nan := by decide +kernel
  have greatestIsNumber : greatest ≠ .nan := by decide +kernel
  have ordered : tie.IsAtMost quarter := .inl (by decide +kernel)
  have tieNarrowed : tie.narrowed = twice := by decide +kernel
  have quarterNarrowed : quarter.narrowed = Binary.zero true := by decide +kernel
  have greatestNarrowed : greatest.narrowed = .infinite false := by decide +kernel
  have negative : (LiteralNumber.float tie).isNegative = true := by decide +kernel
  have positive : (LiteralNumber.float greatest).isPositive = true := by decide +kernel
  have accepted : Kind.checkNumber .negative (.float tie) = .ok () := by decide +kernel
  obtain ⟨_, mono, laws⟩ := narrowed?_retracts
  obtain ⟨settled, _, _, notPositive, _, _, kept⟩ := laws tie tieIsNumber
  obtain ⟨_, mirrored, _, _, notNegative, _, _⟩ := laws greatest greatestIsNumber
  have narrowedOrdered := mono tie quarter ordered
  rw [tieNarrowed, quarterNarrowed] at narrowedOrdered
  rw [tieNarrowed] at settled notPositive kept
  rw [greatestNarrowed] at mirrored notNegative
  exact ⟨tieIsNumber, greatestIsNumber, ordered, tieNarrowed, quarterNarrowed, narrowedOrdered,
    settled, negative, notPositive negative, accepted, kept _ accepted, greatestNarrowed,
    mirrored, positive, notNegative positive⟩

end LiteralNumber

end CheckedLiterals
