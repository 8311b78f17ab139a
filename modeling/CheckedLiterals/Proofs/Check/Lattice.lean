import CheckedLiterals.Proofs.Check.FloatSpelling
import CheckedLiterals.Proofs.Check.Margin

namespace CheckedLiterals

/-!
# How the kinds hang together

A literal is a number to every numeric kind or to none.  If it is one, the kinds accept it
in accord: the number is judged with one margin around zero by all of them, and the margin
only widens what is neither positive nor negative.
-/

namespace Kind

/--
Whether the numeric kinds accept in accord, for a number that is zero or not.  A number within
the margin is accepted as on one side of zero but neither as positive nor as negative.
-/
structure Accord (accepts : Kind → Prop) (zero : Prop) : Prop where
  nonZero_iff : accepts .nonZero ↔ accepts .positive ∨ accepts .negative
  not_both : ¬(accepts .positive ∧ accepts .negative)
  of_positive : accepts .positive → accepts .nonNegative ∧ ¬accepts .nonPositive
  of_negative : accepts .negative → accepts .nonPositive ∧ ¬accepts .nonNegative
  either : accepts .nonPositive ∨ accepts .nonNegative
  zero_iff : accepts .nonPositive ∧ accepts .nonNegative ↔ zero
  of_zero : zero → ¬accepts .nonZero
  zeroToOne_iff : accepts .zeroToOne ↔ accepts .minusOneToOne ∧ accepts .nonNegative

/-- What the kinds allow with one margin, they allow in accord. -/
theorem accord_allowsBeyond
    {margin value : EReal}
    (nonneg : 0 ≤ margin) :
    Accord (fun kind => kind.AllowsBeyond margin value) (value = 0) := by
  have nonpos := EReal.neg_le_zero.mpr nonneg
  have minusOne : (-1 : EReal) ≤ 0 := EReal.neg_le_zero.mpr zero_le_one
  constructor
  · exact Iff.rfl
  · rintro ⟨above, below⟩
    exact (nonpos.trans (nonneg.trans above.le)).not_gt below
  · intro above
    have positive := nonneg.trans_lt above
    exact ⟨positive.le, positive.not_ge⟩
  · intro below
    have negative := below.trans_le nonpos
    exact ⟨negative.le, negative.not_ge⟩
  · exact le_total value 0
  · exact ⟨fun both => le_antisymm both.1 both.2, fun zero => ⟨zero.le, zero.ge⟩⟩
  · rintro rfl
    exact not_or.mpr ⟨nonneg.not_gt, nonpos.not_gt⟩
  · constructor
    · rintro ⟨atMost, atLeast⟩
      exact ⟨⟨atMost, minusOne.trans atLeast⟩, atLeast⟩
    · rintro ⟨⟨atMost, _⟩, atLeast⟩
      exact ⟨atMost, atLeast⟩

/-- Accord is a matter of what the numeric kinds accept. -/
theorem Accord.congr
    {accepts others : Kind → Prop}
    {zero otherZero : Prop}
    (accord : Accord accepts zero)
    (same : ∀ kind : Kind, kind.isNumeric = true → (others kind ↔ accepts kind))
    (sameZero : otherZero ↔ zero) :
    Accord others otherZero := by
  constructor <;>
    simp (disch := decide) only [same, sameZero]
  · exact accord.nonZero_iff
  · exact accord.not_both
  · exact accord.of_positive
  · exact accord.of_negative
  · exact accord.either
  · exact accord.zero_iff
  · exact accord.of_zero
  · exact accord.zeroToOne_iff

/-- A float that was read is a number, and it compares equal to zero just where it is zero. -/
theorem isZero_iff_of_extended
    {number : Binary64}
    {value : EReal}
    (isValue : number.extended? = some value) :
    (LiteralNumber.float number).isZero = true ↔ value = 0 := by
  have compared := Binary.compareInt?_of_extended isValue (show (0 : Int).natAbs ≤ _ by simp)
  rw [LiteralNumber.isZero, LiteralNumber.compareInt, compared, Option.getD_some, beq_iff_eq,
    compare_eq_iff_eq, Int.cast_zero, EReal.coe_zero]

/-- Every number that is read is judged with one margin by all kinds. -/
theorem exists_margin
    {text : String}
    {number : LiteralNumber}
    (read : LiteralNumber.parse? text = some number) :
    ∃ margin value,
      0 ≤ margin ∧
        (∀ kind : Kind, kind.checkNumber number = kind.ruleBeyond margin value) ∧
        (number.isZero = true ↔ value = 0) := by
  cases number with
  | integer number =>
      refine ⟨0, ((number.toInt : ℝ) : EReal), le_rfl, ?_, ?_⟩
      · intro kind
        rw [checkNumber_integer_eq_rule, ruleBeyond_zero]
      · rw [LiteralNumber.isZero, LiteralNumber.compareInt, beq_iff_eq, compare_eq_iff_eq]
        norm_cast
  | float number =>
      obtain ⟨_, _, finite, _⟩ := LiteralNumber.exists_standsFor read
      have isNumber : number ≠ .nan := by
        rintro rfl
        cases finite
      obtain ⟨value, isValue⟩ := Binary.exists_extended isNumber
      exact ⟨_, value, Binary.vanishing_nonneg,
        fun kind => kind.checkNumber_float_eq_ruleBeyond isValue, isZero_iff_of_extended isValue⟩

/--
Either no numeric kind finds a number in a literal, or every one does, and then what they
accept is in accord, where the number counts as zero if it compares equal to zero.
-/
theorem accord_accepts (text : String) :
    (LiteralNumber.parse? text = none ∧
        ∀ kind : Kind, kind.isNumeric = true →
          kind.expand [text] = .error .notNumberLiteral) ∨
      ∃ number,
        LiteralNumber.parse? text = some number ∧
          (∀ kind : Kind, kind.isNumeric = true →
            kind.expand [text] ≠ .error .notNumberLiteral) ∧
          Accord (fun kind => kind.Accepts text) (number.isZero = true) := by
  cases read : LiteralNumber.parse? text with
  | none =>
      left
      refine ⟨rfl, ?_⟩
      intro kind numeric
      rw [expand_eq_error_iff, check_eq_notNumberLiteral_iff numeric, read]
  | some number =>
      right
      obtain ⟨margin, value, nonneg, checked, isZero⟩ := exists_margin read
      refine ⟨number, rfl, ?_, ?_⟩
      · intro kind numeric
        rw [Ne, expand_eq_error_iff, check_eq_notNumberLiteral_iff numeric, read]
        exact Option.some_ne_none number
      · apply (accord_allowsBeyond nonneg).congr _ isZero
        intro kind numeric
        rw [Accepts, exists_expand_eq_ok_iff (check_of_parse? numeric read), checked,
          ruleBeyond_eq_ok_iff]

/--
Positive and not positive are no complements: what vanishes in single width is neither.  It is read
as a number all the same, and so the kinds are in accord on it.
-/
theorem accord_accepts_vanishing :
    ∃ number,
      LiteralNumber.parse? "1e-50" = some number ∧
        number.isZero = false ∧
        Accord (fun kind => kind.Accepts "1e-50") (number.isZero = true) ∧
        expand .positive ["1e-50"] = .error (.violation .notPositive) ∧
        expand .nonPositive ["1e-50"] = .error (.violation .positive) := by
  have notPositive : expand .positive ["1e-50"] = .error (.violation .notPositive) := by
    decide +kernel
  have positive : expand .nonPositive ["1e-50"] = .error (.violation .positive) := by
    decide +kernel
  have notZero : ((LiteralNumber.parse? "1e-50").map LiteralNumber.isZero) = some false := by
    decide +kernel
  rcases accord_accepts "1e-50" with ⟨unread, _⟩ | ⟨number, read, _, accord⟩
  · rw [unread] at notZero
    cases notZero
  · rw [read, Option.map_some, Option.some.injEq] at notZero
    exact ⟨number, read, notZero, accord, notPositive, positive⟩

end Kind

end CheckedLiterals
