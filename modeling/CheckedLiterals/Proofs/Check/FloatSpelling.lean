import CheckedLiterals.Proofs.Binary.ShortDecimal
import CheckedLiterals.Proofs.Check.WholeSpelling

namespace CheckedLiterals

/-!
# Floating-point numbers in digits

A finite number of double width, written with the fewest digits, is checked as itself and
as what it becomes in single width.  A finite number of single width is checked as the
neighbours that its digits have in double and in single width, but those get the same
verdict as the number.
-/

open Binary (Format StandsLike signed)

theorem Binary.convert_ne_nan
    {format : Format}
    {number : Binary format}
    (isNumber : number ≠ .nan)
    (target : Format) :
    number.convert target ≠ .nan := by
  cases number with
  | nan => exact absurd rfl isNumber
  | infinite negative => simp [convert]
  | finite negative units represents =>
      simp only [convert, ofRatio]
      split <;> simp

namespace Kind

theorem predicate_check_eq_ok_iff
    {Value : Type}
    [Comparable Value]
    {kind : Kind}
    {value : Value} :
    kind.predicate.check value = .ok () ↔ kind.judgeValue value = .ok () :=
  (words_mapError _).1

/-- An expansion is what the check lets through. -/
theorem exists_expand_eq_ok_iff
    {kind : Kind}
    {text : String}
    {judgement : Except Violation Unit}
    (checked : kind.check text = judgement.mapError .violation) :
    (∃ expansion, kind.expand [text] = .ok expansion) ↔ judgement = .ok () := by
  rw [expand_of_check checked]
  cases judgement <;> simp [Except.mapError, Except.map]

/-- A literal's float is judged as the number of double width that it is. -/
theorem judgeLiteral_float
    (kind : Kind)
    {number : Binary64}
    (isNumber : number ≠ .nan) :
    kind.judgeLiteral (.float number) = kind.judgeValue number := by
  obtain ⟨value, isValue⟩ := Binary.exists_extended isNumber
  rw [kind.judgeLiteral_float_eq_rule isValue, kind.judgeValue_binary_eq_rule isValue]

/-- A literal's float that came from single width is judged as the number of that width. -/
theorem judgeLiteral_widened
    (kind : Kind)
    {number : Binary32}
    (isNumber : number ≠ .nan) :
    kind.judgeLiteral (.float (number.convert .binary64)) = kind.judgeValue number := by
  obtain ⟨value, isValue⟩ := Binary.exists_extended isNumber
  rw [kind.judgeValue_binary_eq_rule isValue, kind.judgeLiteral_float_eq_rule]
  rw [Binary.extended?_widened, isValue]

/-- The check of a literal's float accepts what is accepted in both widths. -/
theorem checkNumber_float_eq_ok_iff
    (kind : Kind)
    {number : Binary64}
    (isNumber : number ≠ .nan) :
    kind.checkNumber (.float number) = .ok () ↔
      kind.judgeValue number = .ok () ∧ kind.judgeValue (number.convert .binary32) = .ok () := by
  rw [checkNumber_float, kind.judgeLiteral_float isNumber,
    kind.judgeLiteral_widened (Binary.convert_ne_nan isNumber .binary32)]
  cases kind.judgeValue number with
  | error fault => simp [bind, Except.bind]
  | ok => simp [bind, Except.bind]

/-- A kind that allows a number of single width admits what stands like it in every format. -/
theorem admits_of_standsLike
    {kind : Kind}
    {negative : Bool}
    {units : Nat}
    {magnitude : ℚ}
    (stands : StandsLike units magnitude)
    (allowed : kind.Allows (2 ^ Format.scale .binary32) (signed negative units))
    (format : Format) :
    kind.Admits format (if negative then -magnitude else magnitude) := by
  have half := format.halfUnit_pos
  have slack := format.slack_pos
  -- What holds below zero is what holds above it with the other sign.
  obtain ⟨nonpos, positive, atMostOne⟩ := stands.sides negative format
  obtain ⟨nonneg, below, atLeastMinusOne⟩ := stands.sides (!negative) format
  have mirrored : (if !negative then -magnitude else magnitude) =
      -(if negative then -magnitude else magnitude) := by
    cases negative <;> simp
  rw [Binary.signed_neg, mirrored] at nonneg below atLeastMinusOne
  generalize (if negative then -magnitude else magnitude) = value at *
  generalize signed negative units = position at *
  cases kind with
  | positive => exact positive allowed
  | negative => exact lt_neg.mp (below (neg_pos.mpr allowed))
  | nonPositive => exact (nonpos allowed).trans half.le
  | nonNegative =>
      have := nonneg (neg_nonpos.mpr allowed)
      exact neg_le.mp (this.trans half.le)
  | nonZero =>
      rcases lt_or_gt_of_ne allowed with under | above
      · exact .inr (lt_neg.mp (below (neg_pos.mpr under)))
      · exact .inl (positive above)
  | nonEmptyString => exact allowed
  | zeroToOne =>
      have high := atMostOne allowed.1
      have low := nonneg (neg_nonpos.mpr allowed.2)
      exact ⟨by linarith, by linarith⟩
  | minusOneToOne =>
      have high := atMostOne allowed.1
      have low := atLeastMinusOne (neg_le.mp allowed.2)
      exact ⟨by linarith, by linarith⟩

/-- What rounds from a magnitude that stands like an accepted number is accepted. -/
theorem judgeValue_of_standsLike
    {kind : Kind}
    {negative : Bool}
    {units : Nat}
    {represents : Format.Represents .binary32 units}
    {magnitude : ℚ}
    {format : Format}
    {number : Binary format}
    (judged : kind.judgeValue (Binary.finite negative units represents) = .ok ())
    (stands : StandsLike units magnitude)
    (nearest : number.IsNearestTo (if negative then -magnitude else magnitude)) :
    kind.judgeValue number = .ok () := by
  have allowed := (kind.judgeValue_eq_ok_iff_allows rfl).mp judged
  exact (kind.judgeValue_binary_eq_ok_iff nearest).mpr (admits_of_standsLike stands allowed format)

/-- The text of a finite number of double width is checked as the number. -/
theorem check_binary64Text
    {kind : Kind}
    (numeric : kind.isNumeric = true)
    {number : Binary64}
    (finite : number.isFinite = true)
    {template : Template}
    (bare : template = {} ∨ template = { style := .inspect }) :
    kind.check (String.ofList (number.write template)) =
      (kind.checkNumber (.float number)).mapError .violation := by
  cases number with
  | nan => cases finite
  | infinite negative => cases finite
  | finite negative units represents =>
      have checked := check_of_spellsDecimal numeric (.inl rfl)
        (Binary.spellsDecimal_write represents bare)
        (Binary.isRoundingOf_shortest .up negative represents) finite
      rwa [List.append_nil] at checked

/-- The text of a finite number of single width is accepted just where the number is. -/
theorem exists_check_binary32Text
    {kind : Kind}
    (numeric : kind.isNumeric = true)
    {number : Binary32}
    (finite : number.isFinite = true) :
    ∃ judgement : Except Violation Unit,
      kind.check (String.ofList (number.write { style := .inspect } ++ "f32".toList)) =
          judgement.mapError .violation ∧
        (judgement = .ok () ↔ kind.judgeValue number = .ok ()) := by
  cases number with
  | nan => cases finite
  | infinite negative => cases finite
  | finite negative units represents =>
      obtain ⟨rounded, within, isRounding⟩ := Binary.exists_rounded_shortest negative represents
      have spelled : Numeral.SpellsDecimal _ negative _ :=
        Binary.spellsDecimal_write represents (.inr rfl)
      have stands := Binary.standsLike_shortest negative represents
      have read : (Binary.finite negative rounded within).IsNearestTo _ :=
        ⟨negative, _, stands.nonneg, rfl, isRounding⟩
      have own : (Binary.finite negative units represents).IsNearestTo _ :=
        ⟨negative, _, stands.nonneg, rfl,
          Binary.isRoundingOf_shortest .up negative represents⟩
      refine ⟨_, check_of_spellsDecimal numeric (.inr (by decide)) spelled isRounding rfl, ?_⟩
      constructor
      · intro accepted
        have standsFor : (LiteralNumber.float (.finite negative rounded within)).StandsFor _ :=
          ⟨rfl, read⟩
        exact (kind.judgeValue_binary_eq_ok_iff own).mpr
          (admits_of_checkNumber standsFor accepted .binary32)
      · intro judged
        have narrowed : ((Binary.finite negative rounded within).convert .binary32).IsNearestTo _ :=
          ⟨negative, _, (stands.rounded isRounding.2).nonneg, rfl,
            Binary.isRoundingOf_convert .binary32 negative within⟩
        rw [kind.checkNumber_float_eq_ok_iff (by simp)]
        exact ⟨judgeValue_of_standsLike judged stands read,
          judgeValue_of_standsLike judged (stands.rounded isRounding.2) narrowed⟩

/--
The text of a finite number of double width, for reading or for inspection, is accepted by a
numeric kind just where the predicate of the kind accepts the number and also what it becomes
in single width.  The text for inspection of a finite number of single width, with the name
of that type behind it, is accepted just where the predicate accepts the number.
-/
theorem expand_floatText
    {kind : Kind}
    (numeric : kind.isNumeric = true) :
    (∀ (number : Binary64) (template : Template),
      number.isFinite = true →
        template = {} ∨ template = { style := .inspect } →
        ((∃ expansion,
            kind.expand [String.ofList (number.write template)] = .ok expansion) ↔
          kind.predicate.check number = .ok () ∧
            kind.predicate.check (number.convert .binary32) = .ok ())) ∧
      ∀ number : Binary32,
        number.isFinite = true →
          ((∃ expansion,
              kind.expand
                  [String.ofList (number.write { style := .inspect } ++ "f32".toList)] =
                .ok expansion) ↔
            kind.predicate.check number = .ok ()) := by
  constructor
  · intro number template finite bare
    have isNumber : number ≠ .nan := by
      rintro rfl
      cases finite
    rw [exists_expand_eq_ok_iff (check_binary64Text numeric finite bare),
      kind.checkNumber_float_eq_ok_iff isNumber, predicate_check_eq_ok_iff,
      predicate_check_eq_ok_iff]
  · intro number finite
    obtain ⟨judgement, checked, accepted⟩ := exists_check_binary32Text numeric finite
    rw [exists_expand_eq_ok_iff checked, accepted, predicate_check_eq_ok_iff]

/--
The least number of single width is positive, and so is its text; the least number of double
width is positive too, but not in single width, and its text is rejected.
-/
theorem expand_floatText_least :
    let single : Binary32 := .finite false 1 (by decide +kernel)
    let double : Binary64 := .finite false 1 (by decide +kernel)
    isNumeric .positive = true ∧
      String.ofList (single.write { style := .inspect } ++ "f32".toList) = "1e-45f32" ∧
      (∃ expansion, expand .positive ["1e-45f32"] = .ok expansion) ∧
      String.ofList (double.write { style := .inspect }) = "5e-324" ∧
      (predicate .positive).check double = .ok () ∧
      ¬∃ expansion, expand .positive ["5e-324"] = .ok expansion := by
  intro single double
  have numeric : isNumeric .positive = true := rfl
  obtain ⟨doubles, singles⟩ := expand_floatText numeric
  have singleText :
      String.ofList (single.write { style := .inspect } ++ "f32".toList) = "1e-45f32" := by
    decide +kernel
  have doubleText : String.ofList (double.write { style := .inspect }) = "5e-324" := by
    decide +kernel
  have singleAccepted := singles single rfl
  have doubleAccepted := doubles double { style := .inspect } rfl (.inr rfl)
  rw [singleText] at singleAccepted
  rw [doubleText] at doubleAccepted
  refine ⟨numeric, singleText, singleAccepted.mpr (by decide +kernel), doubleText,
    by decide +kernel, ?_⟩
  rw [doubleAccepted]
  decide +kernel

end Kind

end CheckedLiterals
