import CheckedLiterals.Proofs.Check.WholeSpelling

namespace CheckedLiterals

/-!
# Spelling makes no difference

What a numeric kind says to a literal is what it says to the rational that the literal
denotes.  Two spellings of one rational may be read as a whole number and as a float, or
as zeros with different signs, but no kind tells them apart.
-/

namespace Kind

/-- What a kind says to a literal that rounds to a number: a literal has to be finite. -/
def checkRounded (kind : Kind) (number : Binary64) : Except Rejection Unit :=
  if number.isFinite then
    (kind.checkNumber (.float number)).mapError .violation
  else
    .error .notNumberLiteral

/-- What a kind says to a literal that denotes a rational. -/
def checkRational (kind : Kind) (value : ℚ) : Except Rejection Unit :=
  kind.checkRounded (Binary.ofRat .binary64 value)

theorem checkRounded_of_isNearestTo_zero
    (kind : Kind)
    {number : Binary64}
    (nearest : number.IsNearestTo 0) :
    kind.checkRounded number = (kind.verdict (fun bound => bound) 0).mapError .violation := by
  have bounded : |(0 : ℚ)| ≤ 2 ^ 0 := by simp
  have finite := nearest.isFinite bounded (by decide)
  have standsFor : (LiteralNumber.float number).StandsFor (0 : Int) :=
    ⟨finite, by rwa [Int.cast_zero]⟩
  rw [checkRounded, if_pos finite, kind.checkNumber_of_standsFor standsFor]

/-- A kind says the same to all that is nearest to one rational, so to both zeros too. -/
theorem checkRounded_of_isNearestTo
    (kind : Kind)
    {value : ℚ}
    {number : Binary64}
    (nearest : number.IsNearestTo value) :
    kind.checkRounded number = kind.checkRational value := by
  have exact := Binary.isNearestTo_ofRat .binary64 value
  rw [checkRational]
  by_cases isZero : value = 0
  · subst isZero
    rw [kind.checkRounded_of_isNearestTo_zero nearest,
      kind.checkRounded_of_isNearestTo_zero exact]
  · rw [(nearest.isRoundingOf isZero).unique (exact.isRoundingOf isZero)]

/-- What overflows in double width is no number to any kind. -/
theorem checkRational_eq_notNumberLiteral_iff
    (kind : Kind)
    (value : ℚ) :
    kind.checkRational value = .error .notNumberLiteral ↔ 2 ^ 1024 - 2 ^ 970 ≤ |value| := by
  have finite_iff := (Binary.isNearestTo_ofRat .binary64 value).isFinite_iff
  rw [Binary.Format.overflow_binary64] at finite_iff
  rw [← not_lt, ← finite_iff, checkRational, checkRounded]
  split
  · case isTrue finite =>
      simp [finite, mapError_violation_ne]
  · case isFalse infinite =>
      simp [infinite]

/-- A kind says to a literal what it says to the rational behind it. -/
theorem check_of_denotes
    {kind : Kind}
    {text : String}
    {value : ℚ}
    (numeric : kind.isNumeric = true)
    (denotes : LiteralNumber.Denotes text value) :
    kind.check text = kind.checkRational value := by
  obtain ⟨number, rounds, nearest⟩ := denotes.exists_roundsTo .binary64
  rw [← kind.checkRounded_of_isNearestTo nearest, checkRounded]
  split
  · case isTrue finite =>
      exact check_of_roundsTo numeric rounds finite
  · case isFalse infinite =>
      rw [check_eq_notNumberLiteral_iff numeric]
      exact rounds.parse?_of_infinite (Bool.eq_false_iff.mpr infinite)

/--
Of two literals that denote one rational, however they spell it, a numeric kind accepts both
or rejects both with one error.  The rational decides: if rounding it to double width
overflows it is no number, and else it is judged as what it rounds to.
-/
theorem expand_of_denotes
    {kind : Kind}
    {text other : String}
    {value : ℚ}
    (numeric : kind.isNumeric = true)
    (denotes : LiteralNumber.Denotes text value)
    (otherDenotes : LiteralNumber.Denotes other value) :
    ((kind.Accepts text ∧ kind.Accepts other ∧ kind.checkRational value = .ok ()) ∨
        ∃ rejection,
          kind.expand [text] = .error rejection ∧
            kind.expand [other] = .error rejection ∧
            kind.checkRational value = .error rejection) ∧
      (kind.checkRational value = .error .notNumberLiteral ↔ 2 ^ 1024 - 2 ^ 970 ≤ |value|) := by
  refine ⟨?_, kind.checkRational_eq_notNumberLiteral_iff value⟩
  have checked := check_of_denotes numeric denotes
  have otherChecked := check_of_denotes numeric otherDenotes
  cases answer : kind.checkRational value with
  | ok =>
      rw [answer] at checked otherChecked
      exact .inl ⟨⟨_, expand_eq_ok_iff.mpr ⟨checked, rfl⟩⟩,
        ⟨_, expand_eq_ok_iff.mpr ⟨otherChecked, rfl⟩⟩, rfl⟩
  | error rejection =>
      rw [answer] at checked otherChecked
      exact .inr ⟨rejection, expand_eq_error_iff.mpr checked,
        expand_eq_error_iff.mpr otherChecked, rfl⟩

/--
The greatest whole number of 64 bits is compared as it is, while with a point it is rounded to
the next power of two, but the answer is the same.
-/
theorem expand_of_denotes_greatest :
    let whole := "9223372036854775807i64"
    let pointed := " +92_233_720_368_547_758.07e2"
    let rounded : Binary64 := .finite false (2 ^ 63 * 2 ^ 1074) (by decide +kernel)
    isNumeric .minusOneToOne = true ∧
      LiteralNumber.Denotes whole 9223372036854775807 ∧
      LiteralNumber.Denotes pointed 9223372036854775807 ∧
      LiteralNumber.parse? whole = some (.integer 9223372036854775807) ∧
      LiteralNumber.parse? pointed = some (.float rounded) ∧
      expand .minusOneToOne [whole] = .error (.violation .greaterThanOne) ∧
      expand .minusOneToOne [pointed] = .error (.violation .greaterThanOne) := by
  intro whole pointed rounded
  have numeric : isNumeric .minusOneToOne = true := rfl
  have wholeDenotes : LiteralNumber.Denotes whole 9223372036854775807 :=
    LiteralNumber.denotes_iff.mpr
      ⟨⟨false, 9223372036854775807, 0⟩, by decide +kernel, by norm_num [Numeral.magnitude]⟩
  have pointedDenotes : LiteralNumber.Denotes pointed 9223372036854775807 :=
    LiteralNumber.denotes_iff.mpr
      ⟨⟨false, 9223372036854775807, 0⟩, by decide +kernel, by norm_num [Numeral.magnitude]⟩
  have rejected : expand .minusOneToOne [whole] = .error (.violation .greaterThanOne) := by
    decide +kernel
  refine ⟨numeric, wholeDenotes, pointedDenotes, by decide +kernel, by decide +kernel,
    rejected, ?_⟩
  rcases (expand_of_denotes numeric wholeDenotes pointedDenotes).1 with
    ⟨⟨_, accepted⟩, _⟩ | ⟨rejection, same, otherSame, _⟩
  · rw [rejected] at accepted
    cases accepted
  · rw [otherSame, ← same, rejected]

end Kind

end CheckedLiterals
