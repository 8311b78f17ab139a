import CheckedLiterals.Proofs.Check.Margin
import CheckedLiterals.Proofs.Check.Spelling
import CheckedLiterals.Proofs.LiteralNumber.Minus

namespace CheckedLiterals

/-!
# A minus mirrors the verdict

The rules of the kinds are symmetric about zero, but for the range from zero up, and so are
rounding and narrowing.  So what a kind says to a literal without a sign, its mirror image
says to the literal with a minus in front, also where only one of the two is read as a whole
number and where a zero loses its sign.
-/

open Binary (vanishing)

/-- A number and its opposite have opposite exact values. -/
theorem Binary.extended?_neg
    {format : Binary.Format}
    {number : Binary format}
    {value : EReal}
    (isValue : number.extended? = some value) :
    number.neg.extended? = some (-value) := by
  cases number with
  | nan => cases isValue
  | infinite negative =>
      rw [extended?, Option.some.injEq] at isValue
      rw [← isValue]
      cases negative <;> simp [neg, extended?]
  | finite negative units represents =>
      rw [extended?, Option.some.injEq] at isValue
      rw [← isValue, neg, extended?, signed_neg, ← EReal.coe_neg, Int.cast_neg, neg_div]

theorem Binary.isFinite_neg
    {format : Binary.Format}
    (number : Binary format) :
    number.neg.isFinite = number.isFinite := by
  cases number <;> rfl

namespace Kind

/-- The kinds and their faults that change places when numbers change their sign. -/
inductive Mirrors : Kind → Violation → Kind → Violation → Prop where
  | positive : Mirrors .positive .notPositive .negative .notNegative
  | negative : Mirrors .negative .notNegative .positive .notPositive
  | nonPositive : Mirrors .nonPositive .positive .nonNegative .negative
  | nonNegative : Mirrors .nonNegative .negative .nonPositive .positive
  | nonZero : Mirrors .nonZero .zero .nonZero .zero
  | aboveOne : Mirrors .minusOneToOne .greaterThanOne .minusOneToOne .lessThanMinusOne
  | belowMinusOne : Mirrors .minusOneToOne .lessThanMinusOne .minusOneToOne .greaterThanOne

/-- Whether a kind is the mirror image of another one. -/
def IsMirror (kind mirror : Kind) : Prop :=
  ∃ fault mirrorFault, Mirrors kind fault mirror mirrorFault

theorem IsMirror.isNumeric
    {kind mirror : Kind}
    (isMirror : kind.IsMirror mirror) :
    kind.isNumeric = true ∧ mirror.isNumeric = true := by
  obtain ⟨_, _, mirrors⟩ := isMirror
  cases mirrors <;> decide

/-- Whether two answers are both acceptance, or report faults that mirror each other. -/
def AnswersMirrored
    (kind mirror : Kind)
    (answer mirrorAnswer : Except Violation Unit) :
    Prop :=
  (answer = .ok () ∧ mirrorAnswer = .ok ()) ∨
    ∃ fault mirrorFault,
      Mirrors kind fault mirror mirrorFault ∧
        answer = .error fault ∧
        mirrorAnswer = .error mirrorFault

/-- Conditions that hold together are answered alike, with one fault for each side. -/
theorem answersMirrored_ite
    {kind mirror : Kind}
    {fault mirrorFault : Violation}
    {condition mirrorCondition : Prop}
    [Decidable condition]
    [Decidable mirrorCondition]
    (mirrors : Mirrors kind fault mirror mirrorFault)
    (same : mirrorCondition ↔ condition) :
    AnswersMirrored kind mirror
      (if condition then .ok () else .error fault)
      (if mirrorCondition then .ok () else .error mirrorFault) := by
  rw [if_congr same rfl rfl]
  by_cases holds : condition
  · rw [if_pos holds, if_pos holds]
    exact .inl ⟨rfl, rfl⟩
  · rw [if_neg holds, if_neg holds]
    exact .inr ⟨fault, mirrorFault, mirrors, rfl, rfl⟩

/-- Of a range about zero, no number is past both bounds, so their order makes no difference. -/
theorem answersMirrored_range (value : EReal) :
    AnswersMirrored .minusOneToOne .minusOneToOne
      (rule .minusOneToOne value) (rule .minusOneToOne (-value)) := by
  have ordered : (-1 : EReal) < 1 := by
    rw [← EReal.coe_one, ← EReal.coe_neg, EReal.coe_lt_coe_iff]
    norm_num
  have opposite : (1 : EReal) < -value ↔ value < -1 := EReal.lt_neg_comm
  have mirrored : -value < -1 ↔ 1 < value := EReal.neg_lt_neg_iff
  simp only [rule, verdict, Int.cast_one, Int.cast_neg, EReal.coe_one, EReal.coe_neg, opposite,
    mirrored]
  by_cases above : 1 < value
  · have notBelow : ¬value < -1 := (ordered.trans above).not_gt
    rw [if_pos above, if_neg notBelow, if_pos above]
    exact .inr ⟨_, _, .aboveOne, rfl, rfl⟩
  · rw [if_neg above, if_neg above]
    by_cases below : value < -1
    · rw [if_pos below, if_pos below]
      exact .inr ⟨_, _, .belowMinusOne, rfl, rfl⟩
    · rw [if_neg below, if_neg below]
      exact .inl ⟨rfl, rfl⟩

/-- The rules of mirrored kinds answer opposite values alike, with any margin around zero. -/
theorem answersMirrored_ruleBeyond
    {kind mirror : Kind}
    (isMirror : kind.IsMirror mirror)
    (margin value : EReal) :
    AnswersMirrored kind mirror
      (kind.ruleBeyond margin value) (mirror.ruleBeyond margin (-value)) := by
  have above : margin < -value ↔ value < -margin := EReal.lt_neg_comm
  have below : -value < -margin ↔ margin < value := EReal.neg_lt_neg_iff
  have nonneg : 0 ≤ -value ↔ value ≤ 0 := EReal.neg_nonneg
  have nonpos : -value ≤ 0 ↔ 0 ≤ value := EReal.neg_le_zero
  obtain ⟨_, _, mirrors⟩ := isMirror
  cases mirrors with
  | positive => exact answersMirrored_ite .positive below
  | negative => exact answersMirrored_ite .negative above
  | nonPositive =>
      simp only [ruleBeyond, rule, verdict, Int.cast_zero, EReal.coe_zero]
      exact answersMirrored_ite .nonPositive nonneg
  | nonNegative =>
      simp only [ruleBeyond, rule, verdict, Int.cast_zero, EReal.coe_zero]
      exact answersMirrored_ite .nonNegative nonpos
  | nonZero =>
      apply answersMirrored_ite .nonZero
      rw [above, below, or_comm]
  | aboveOne => exact answersMirrored_range value
  | belowMinusOne => exact answersMirrored_range value

/-- The check of opposite floats answers alike. -/
theorem answersMirrored_checkNumber
    {kind mirror : Kind}
    (isMirror : kind.IsMirror mirror)
    {number : Binary64}
    (isNumber : number ≠ .nan) :
    AnswersMirrored kind mirror
      (kind.checkNumber (.float number)) (mirror.checkNumber (.float number.neg)) := by
  obtain ⟨value, isValue⟩ := Binary.exists_extended isNumber
  rw [kind.checkNumber_float_eq_ruleBeyond isValue,
    mirror.checkNumber_float_eq_ruleBeyond (Binary.extended?_neg isValue)]
  exact answersMirrored_ruleBeyond isMirror vanishing value

/-- What a kind says to a literal that denotes a rational, its mirror says to the opposite. -/
theorem checkRational_neg
    {kind mirror : Kind}
    (isMirror : kind.IsMirror mirror)
    (value : ℚ) :
    (kind.checkRational value = .error .notNumberLiteral ∧
        mirror.checkRational (-value) = .error .notNumberLiteral) ∨
      ∃ answer mirrorAnswer,
        AnswersMirrored kind mirror answer mirrorAnswer ∧
          kind.checkRational value = answer.mapError .violation ∧
          mirror.checkRational (-value) = mirrorAnswer.mapError .violation := by
  have nearest := Binary.isNearestTo_ofRat .binary64 value
  rw [← kind.checkRounded_of_isNearestTo nearest, ← mirror.checkRounded_of_isNearestTo nearest.neg,
    checkRounded, checkRounded, Binary.isFinite_neg]
  split
  · case isTrue finite =>
      have isNumber : Binary.ofRat .binary64 value ≠ .nan := by
        intro isNan
        rw [isNan] at finite
        cases finite
      exact .inr ⟨_, _, answersMirrored_checkNumber isMirror isNumber, rfl, rfl⟩
  · exact .inl ⟨rfl, rfl⟩

/-- What denotes no rational is no number to any kind. -/
theorem check_eq_notNumberLiteral_of_not_denotes
    {kind : Kind}
    {text : String}
    (numeric : kind.isNumeric = true)
    (noRational : ¬∃ value, LiteralNumber.Denotes text value) :
    kind.check text = .error .notNumberLiteral := by
  rw [check_eq_notNumberLiteral_iff numeric]
  cases read : LiteralNumber.parse? text with
  | none => rfl
  | some number =>
      obtain ⟨value, denotes, _⟩ := LiteralNumber.exists_standsFor read
      exact absurd ⟨value, denotes⟩ noRational

/-- A kind finds no number in a literal without a sign just where it finds none behind a minus. -/
theorem check_minus_eq_notNumberLiteral_iff
    {kind : Kind}
    {text : String}
    (numeric : kind.isNumeric = true)
    (isUnsigned : LiteralNumber.IsUnsigned text) :
    kind.check ("-" ++ text) = .error .notNumberLiteral ↔
      kind.check text = .error .notNumberLiteral := by
  by_cases rational : ∃ value, LiteralNumber.Denotes text value
  · obtain ⟨value, denotes⟩ := rational
    have opposite : LiteralNumber.Denotes ("-" ++ text) (-value) :=
      isUnsigned.denotes_minus_iff.mpr (by rwa [neg_neg])
    rw [check_of_denotes numeric denotes, check_of_denotes numeric opposite,
      checkRational_eq_notNumberLiteral_iff, checkRational_eq_notNumberLiteral_iff, abs_neg]
  · have noOpposite : ¬∃ value, LiteralNumber.Denotes ("-" ++ text) value := by
      rintro ⟨value, denotes⟩
      exact rational ⟨_, isUnsigned.denotes_minus_iff.mp denotes⟩
    simp only [check_eq_notNumberLiteral_of_not_denotes numeric rational,
      check_eq_notNumberLiteral_of_not_denotes numeric noOpposite]

/--
For a literal that begins neither with white space nor, behind underscores, with a sign: no
numeric kind finds a number in it without finding one in the literal with a minus in front,
nor the other way round.  If there is a number, a kind accepts the literal just where its
mirror image accepts the literal with the minus, and else the faults mirror each other:
positive and negative change places, so do the bounds of the range about zero, and what is
not to be zero is the same with both signs.
-/
theorem expand_minus
    {text : String}
    (isUnsigned : LiteralNumber.IsUnsigned text) :
    (∀ kind : Kind,
      kind.isNumeric = true →
        (kind.expand ["-" ++ text] = .error .notNumberLiteral ↔
          kind.expand [text] = .error .notNumberLiteral)) ∧
      ∀ kind mirror : Kind,
        kind.IsMirror mirror →
          (kind.Accepts text ∧ mirror.Accepts ("-" ++ text)) ∨
            (kind.expand [text] = .error .notNumberLiteral ∧
              mirror.expand ["-" ++ text] = .error .notNumberLiteral) ∨
            ∃ fault mirrorFault,
              Mirrors kind fault mirror mirrorFault ∧
                kind.expand [text] = .error (.violation fault) ∧
                mirror.expand ["-" ++ text] = .error (.violation mirrorFault) := by
  constructor
  · intro kind numeric
    rw [expand_eq_error_iff, expand_eq_error_iff]
    exact check_minus_eq_notNumberLiteral_iff numeric isUnsigned
  · intro kind mirror isMirror
    obtain ⟨numeric, mirrorNumeric⟩ := isMirror.isNumeric
    simp only [expand_eq_error_iff, Accepts, expand_eq_ok_iff]
    by_cases rational : ∃ value, LiteralNumber.Denotes text value
    · obtain ⟨value, denotes⟩ := rational
      have opposite : LiteralNumber.Denotes ("-" ++ text) (-value) :=
        isUnsigned.denotes_minus_iff.mpr (by rwa [neg_neg])
      rw [check_of_denotes numeric denotes, check_of_denotes mirrorNumeric opposite]
      rcases checkRational_neg isMirror value with noNumber | ⟨_, _, mirrored, first, second⟩
      · exact .inr (.inl noNumber)
      · rw [first, second]
        rcases mirrored with ⟨rfl, rfl⟩ | ⟨fault, mirrorFault, mirrors, rfl, rfl⟩
        · exact .inl ⟨⟨_, rfl, rfl⟩, ⟨_, rfl, rfl⟩⟩
        · exact .inr (.inr ⟨fault, mirrorFault, mirrors, rfl, rfl⟩)
    · have none := check_eq_notNumberLiteral_of_not_denotes numeric rational
      exact .inr (.inl ⟨none, (check_minus_eq_notNumberLiteral_iff mirrorNumeric isUnsigned).mpr
        (check_eq_notNumberLiteral_of_not_denotes mirrorNumeric rational)⟩)

theorem represents_two_pow : Binary.Format.binary64.Represents (2 ^ 63 * 2 ^ 1074) := by
  decide +kernel

/--
Two to the power 63 is read as a float and its opposite as a whole number, but the range about
zero refuses both, each at its own bound.
-/
theorem expand_minus_two_pow :
    let text := "9_223_372_036_854_775_808i64"
    let rounded : Binary64 := .finite false (2 ^ 63 * 2 ^ 1074) represents_two_pow
    LiteralNumber.IsUnsigned text ∧
      IsMirror .minusOneToOne .minusOneToOne ∧
      LiteralNumber.parse? text = some (.float rounded) ∧
      LiteralNumber.parse? ("-" ++ text) = some (.integer Int64.minValue) ∧
      expand .minusOneToOne [text] = .error (.violation .greaterThanOne) ∧
      expand .minusOneToOne ["-" ++ text] = .error (.violation .lessThanMinusOne) := by
  intro text rounded
  have isUnsigned : LiteralNumber.IsUnsigned text := by decide
  have isMirror : IsMirror .minusOneToOne .minusOneToOne := ⟨_, _, .aboveOne⟩
  have above : expand .minusOneToOne [text] = .error (.violation .greaterThanOne) := by
    decide +kernel
  refine ⟨isUnsigned, isMirror, by decide +kernel, by decide +kernel, above, ?_⟩
  rcases (expand_minus isUnsigned).2 _ _ isMirror with
    ⟨⟨_, accepted⟩, _⟩ | ⟨noNumber, _⟩ | ⟨fault, mirrorFault, mirrors, rejected, mirrored⟩
  · rw [above] at accepted
    cases accepted
  · rw [above] at noNumber
    cases noNumber
  · rw [above] at rejected
    cases rejected
    cases mirrors
    exact mirrored

end Kind

end CheckedLiterals
