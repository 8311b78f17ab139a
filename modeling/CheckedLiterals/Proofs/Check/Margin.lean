import CheckedLiterals.Proofs.Binary.Underflow
import CheckedLiterals.Proofs.Check.Stages
import CheckedLiterals.Proofs.Check.WholeSpelling

namespace CheckedLiterals

/-!
# The margin around zero

The two judgements of a literal's float, as it stands and in single width, come to one.
It is the rule of the kind, but where the kind asks the number to be away from zero, the
number has to be past the greatest magnitude that vanishes in single width.  A literal's
whole number is judged by the rule as it is.
-/

open Binary (NarrowsTo vanishing)

namespace Kind

/-- The rule of a kind with a margin: to be away from zero is to be past the margin. -/
noncomputable def ruleBeyond (kind : Kind) (margin value : EReal) : Except Violation Unit :=
  match kind with
  | .positive => if margin < value then .ok () else .error .notPositive
  | .negative => if value < -margin then .ok () else .error .notNegative
  | .nonZero => if margin < value ∨ value < -margin then .ok () else .error .zero
  | kind => kind.rule value

/-- Whether a kind allows a value when a margin around zero counts as zero. -/
def AllowsBeyond (kind : Kind) (margin value : EReal) : Prop :=
  match kind with
  | .positive => margin < value
  | .negative => value < -margin
  | .nonPositive => value ≤ 0
  | .nonNegative => 0 ≤ value
  | .nonZero => margin < value ∨ value < -margin
  | .nonEmptyString => False
  | .zeroToOne => value ≤ 1 ∧ 0 ≤ value
  | .minusOneToOne => value ≤ 1 ∧ -1 ≤ value

theorem ruleBeyond_eq_ok_iff
    (kind : Kind)
    {margin value : EReal} :
    kind.ruleBeyond margin value = .ok () ↔ kind.AllowsBeyond margin value := by
  cases kind <;>
    simp [ruleBeyond, rule, verdict, AllowsBeyond, ite_error_eq_ok_iff, or_iff_not_imp_left]

/-- Without a margin the rule is the exact one. -/
theorem ruleBeyond_zero (kind : Kind) (value : EReal) :
    kind.ruleBeyond 0 value = kind.rule value := by
  cases kind <;>
    simp [ruleBeyond, rule, verdict, or_comm]

/-- Of two judgements the second adds nothing if it accepts whenever the first does. -/
theorem bind_eq_first
    {first second : Except Violation Unit}
    (kept : first = .ok () → second = .ok ()) :
    (first >>= fun _ => second) = first := by
  cases first with
  | error fault => rfl
  | ok => exact kept rfl

theorem ite_bind_ite
    {condition other both : Prop}
    [Decidable condition]
    [Decidable other]
    [Decidable both]
    (fault : Violation)
    (same : condition ∧ other ↔ both) :
    ((if condition then .ok () else .error fault : Except Violation Unit) >>= fun _ =>
        if other then .ok () else .error fault) =
      if both then .ok () else .error fault := by
  by_cases holds : condition
  · rw [and_iff_right holds] at same
    rw [if_pos holds, ← if_congr same rfl rfl]
    rfl
  · rw [if_neg holds, if_neg (mt same.mpr fun both => holds both.1)]
    rfl

/-- What narrowing does not make a kind refuse is judged as it stands. -/
theorem rule_bind_eq_rule
    {kind : Kind}
    {value narrowed : EReal}
    (kept : kind.AllowsBeyond 0 value → kind.AllowsBeyond 0 narrowed) :
    (kind.rule value >>= fun _ => kind.rule narrowed) = kind.rule value := by
  apply bind_eq_first
  rwa [← ruleBeyond_zero, ← ruleBeyond_zero, ruleBeyond_eq_ok_iff, ruleBeyond_eq_ok_iff]

/-- The rule on a value and then on what it narrows to is the rule with the margin. -/
theorem rule_bind_rule
    (kind : Kind)
    {value narrowed : EReal}
    (narrows : NarrowsTo value narrowed) :
    (kind.rule value >>= fun _ => kind.rule narrowed) = kind.ruleBeyond vanishing value := by
  have nonneg := Binary.vanishing_nonneg
  have nonpos := EReal.neg_le_zero.mpr nonneg
  have above : 0 < narrowed ↔ vanishing < value := by
    rw [← not_le, narrows.nonpos_iff, not_le]
  have below : narrowed < 0 ↔ value < -vanishing := by
    rw [← not_le, narrows.nonneg_iff, not_le]
  have aboveZero : vanishing < value → 0 < value := nonneg.trans_lt
  have belowZero : value < -vanishing → value < 0 := fun past => past.trans_le nonpos
  cases kind with
  | positive =>
      simp only [rule, verdict, ruleBeyond, Int.cast_zero, EReal.coe_zero]
      apply ite_bind_ite
      rw [above, and_iff_right_of_imp aboveZero]
  | negative =>
      simp only [rule, verdict, ruleBeyond, Int.cast_zero, EReal.coe_zero]
      apply ite_bind_ite
      rw [below, and_iff_right_of_imp belowZero]
  | nonZero =>
      simp only [rule, verdict, ruleBeyond, Int.cast_zero, EReal.coe_zero]
      apply ite_bind_ite
      have nonzero : narrowed ≠ 0 ↔ vanishing < value ∨ value < -vanishing := by
        rw [ne_iff_lt_or_gt, above, below, or_comm]
      rw [nonzero, and_iff_right_of_imp]
      rintro (past | past)
      · exact (aboveZero past).ne'
      · exact (belowZero past).ne
  -- The other kinds allow zero, and so whatever a value that they allow narrows to.
  | nonPositive =>
      exact rule_bind_eq_rule fun atMost => narrows.nonpos_iff.mpr (atMost.trans nonneg)
  | nonNegative =>
      exact rule_bind_eq_rule fun atLeast => narrows.nonneg_iff.mpr (nonpos.trans atLeast)
  | nonEmptyString => rfl
  | zeroToOne =>
      exact rule_bind_eq_rule fun between =>
        ⟨narrows.atMostOne between.1, narrows.nonneg_iff.mpr (nonpos.trans between.2)⟩
  | minusOneToOne =>
      exact rule_bind_eq_rule fun between =>
        ⟨narrows.atMostOne between.1, narrows.atLeastMinusOne between.2⟩

/-- The check of a literal's float is the rule of the kind with the margin. -/
theorem checkNumber_float_eq_ruleBeyond
    (kind : Kind)
    {number : Binary64}
    {value : EReal}
    (isValue : number.extended? = some value) :
    kind.checkNumber (.float number) = kind.ruleBeyond vanishing value := by
  obtain ⟨narrowed, isNarrowed, narrows⟩ := Binary.exists_narrowsTo isValue
  rw [← Binary.extended?_widened] at isNarrowed
  rw [checkNumber_float, kind.judgeLiteral_float_eq_rule isValue,
    kind.judgeLiteral_float_eq_rule isNarrowed, kind.rule_bind_rule narrows]

theorem checkNumber_integer_eq_rule
    (kind : Kind)
    (number : Int64) :
    kind.checkNumber (.integer number) = kind.rule ((number.toInt : ℝ) : EReal) := by
  rw [checkNumber_integer, judgeLiteral_integer_eq_rule]

/-- The margin makes no difference to zero and to values past it. -/
theorem ruleBeyond_eq_rule
    (kind : Kind)
    {margin value : EReal}
    (nonneg : 0 ≤ margin)
    (outside : value = 0 ∨ margin < value ∨ value < -margin) :
    kind.ruleBeyond margin value = kind.rule value := by
  have nonpos := EReal.neg_le_zero.mpr nonneg
  rcases outside with rfl | above | below
  · cases kind <;>
      simp [ruleBeyond, rule, verdict, nonneg.not_gt, nonpos.not_gt]
  · have positive := nonneg.trans_lt above
    have notBelow := (nonpos.trans positive.le).not_gt
    cases kind <;>
      simp [ruleBeyond, rule, verdict, above, notBelow, positive, positive.ne', positive.not_gt]
  · have negative := below.trans_le nonpos
    have notAbove := (negative.le.trans nonneg).not_gt
    cases kind <;>
      simp [ruleBeyond, rule, verdict, below, notAbove, negative, negative.ne, negative.not_gt]

/-- The margin makes a difference only for a value within it, and only to three kinds. -/
theorem of_ruleBeyond_ne_rule
    {kind : Kind}
    {margin value : EReal}
    (nonneg : 0 ≤ margin)
    (differs : kind.ruleBeyond margin value ≠ kind.rule value) :
    (kind = .positive ∨ kind = .negative ∨ kind = .nonZero) ∧
      value ≠ 0 ∧
      value ≤ margin ∧
      -margin ≤ value := by
  have inside := mt (kind.ruleBeyond_eq_rule nonneg) differs
  simp only [not_or, not_lt] at inside
  refine ⟨?_, inside⟩
  cases kind <;> simp_all [ruleBeyond]

/--
For every number of double width that is one, infinities included, a kind that asks for a
positive value accepts just what is above two to the power -150, one that asks for a negative
value just what is below its opposite, and one that excludes zero just what is beyond either;
every other kind goes by its exact rule.  So the judgement in single width changes an answer
only for these three kinds, and only for values other than zero that are zero there.  Whole
numbers are all judged by the exact rule.
-/
theorem checkNumber_thresholds (kind : Kind) :
    (∀ number : Binary64,
      number ≠ .nan →
        ∃ value,
          number.extended? = some value ∧
            kind.checkNumber (.float number) =
              kind.ruleBeyond ((2 ^ (-150 : ℤ) : ℝ) : EReal) value ∧
            (kind.checkNumber (.float number) ≠ kind.judgeLiteral (.float number) →
              (kind = .positive ∨ kind = .negative ∨ kind = .nonZero) ∧
                value ≠ 0 ∧
                ∃ negative, number.convert .binary32 = Binary.zero negative)) ∧
      ∀ number : Int64,
        kind.checkNumber (.integer number) = kind.rule ((number.toInt : ℝ) : EReal) := by
  rw [← Binary.vanishing_eq_two_pow]
  refine ⟨?_, kind.checkNumber_integer_eq_rule⟩
  intro number isNumber
  obtain ⟨value, isValue⟩ := Binary.exists_extended isNumber
  have checked := kind.checkNumber_float_eq_ruleBeyond isValue
  refine ⟨value, isValue, checked, ?_⟩
  rw [checked, kind.judgeLiteral_float_eq_rule isValue]
  intro differs
  obtain ⟨asks, nonzero, atMost, atLeast⟩ :=
    of_ruleBeyond_ne_rule Binary.vanishing_nonneg differs
  obtain ⟨narrowed, isNarrowed, narrows⟩ := Binary.exists_narrowsTo isValue
  have isZero := le_antisymm (narrows.nonpos_iff.mpr atMost) (narrows.nonneg_iff.mpr atLeast)
  rw [isZero] at isNarrowed
  exact ⟨asks, nonzero, Binary.eq_zero_of_extended isNarrowed⟩

/-- Two to the power -150 is not positive enough, but the next number of double width is. -/
theorem checkNumber_thresholds_halfLeast :
    let half : Binary64 := .finite false (2 ^ 924) (by decide +kernel)
    let next : Binary64 := .finite false (2 ^ 924 + 2 ^ 872) (by decide +kernel)
    half ≠ .nan ∧
      judgeLiteral .positive (.float half) = .ok () ∧
      checkNumber .positive (.float half) = .error .notPositive ∧
      (∃ negative, half.convert .binary32 = Binary.zero negative) ∧
      checkNumber .positive (.float next) = .ok () := by
  intro half next
  have isNumber : half ≠ .nan := nofun
  have judged : judgeLiteral .positive (.float half) = .ok () := by decide +kernel
  have checked : checkNumber .positive (.float half) = .error .notPositive := by decide +kernel
  obtain ⟨_, _, _, vanishes⟩ := (checkNumber_thresholds .positive).1 half isNumber
  rw [judged, checked] at vanishes
  exact ⟨isNumber, judged, checked, (vanishes (by decide)).2.2, by decide +kernel⟩

end Kind

end CheckedLiterals
