import CheckedLiterals.Binary.Shortest
import CheckedLiterals.Proofs.Binary.Rounded
import CheckedLiterals.Proofs.Numeral.Written
import CheckedLiterals.Refined.Text

namespace CheckedLiterals.Binary

/-!
# Decimals that read back

The decimal with the fewest digits is always one that reads back as the number: the
search takes no other one, and the exact expansion, which it falls back on, reads back
as well.  Zeros at the end of the digits are taken off without a change of the value.
So the text of a finite number spells a decimal that rounds to the number.
-/

/-- Digits without the zeros at their end, and how many zeros there were. -/
theorem exists_trailingZeros (digits : List Char) :
    ∃ count,
      digits = (digits.reverse.dropWhile (· == '0')).reverse ++ List.replicate count '0' := by
  have parts := List.takeWhile_append_dropWhile (p := (· == '0')) (l := digits.reverse)
  have zeros : digits.reverse.takeWhile (· == '0') =
      List.replicate (digits.reverse.takeWhile (· == '0')).length '0' := by
    rw [List.eq_replicate_iff]
    refine ⟨rfl, ?_⟩
    intro c member
    simpa using List.all_eq_true.mp List.all_takeWhile c member
  refine ⟨(digits.reverse.takeWhile (· == '0')).length, ?_⟩
  rw [← List.reverse_inj, List.reverse_append, List.reverse_reverse, List.reverse_replicate,
    ← zeros, parts]

/-- Zeros at the end of the digits are powers of ten. -/
theorem magnitude_withoutTrailingZeros (numeral : Numeral) :
    (withoutTrailingZeros numeral).magnitude = numeral.magnitude := by
  obtain ⟨count, shape⟩ := exists_trailingZeros (Nat.toDigits 10 numeral.significand)
  have value := congrArg Numeral.digitsValue shape
  rw [Numeral.digitsValue_append_zeros, Numeral.digitsValue_toDigits] at value
  have length := congrArg List.length shape
  rw [List.length_append, List.length_replicate] at length
  simp only [withoutTrailingZeros, Numeral.magnitude]
  generalize Nat.toDigits 10 numeral.significand = digits at *
  generalize (digits.reverse.dropWhile (· == '0')).reverse = kept at *
  rw [value, length, Nat.add_sub_cancel_left, zpow_add₀ (by norm_num), zpow_natCast]
  push_cast
  ring

/-- The exact expansion has the value of the units. -/
theorem magnitude_exactNumeral
    (format : Format)
    (negative : Bool)
    (units : Nat) :
    (exactNumeral format negative units).magnitude = units / 2 ^ format.scale := by
  have ten : (10 : ℚ) ^ format.scale = 2 ^ format.scale * 5 ^ format.scale := by
    rw [← mul_pow]
    norm_num
  simp only [exactNumeral, Numeral.magnitude, Nat.pow_eq]
  rw [zpow_neg, zpow_natCast, ten]
  push_cast
  field_simp

variable {format : Format}

/-- A finite number is what its exact magnitude rounds to. -/
theorem isRoundingOf_finite
    (negative : Bool)
    {units : Nat}
    (represents : format.Represents units) :
    (Binary.finite negative units represents).IsRoundingOf negative
      (units / 2 ^ format.scale) := by
  refine ⟨rfl, ?_⟩
  rw [div_mul_cancel₀ _ (by positivity)]
  exact (Format.represents_iff.mp represents).1.isNearest

/-- Whichever neighbour of a cut is taken reads back as the number. -/
theorem ofNumeral_of_roundedTo?
    {tie : Tie}
    {number : Binary format}
    {exact found : Numeral}
    {dropped : Nat}
    (taken : roundedTo? tie number exact dropped = some found) :
    ofNumeral format found = number := by
  simp only [roundedTo?] at taken
  split at taken
  · case h_1 below _ =>
      cases taken
      exact of_decide_eq_true below
  · case h_2 _ above =>
      cases taken
      exact of_decide_eq_true above
  · case h_3 below above =>
      rw [Option.some.injEq] at taken
      subst taken
      split
      · exact of_decide_eq_true above
      · exact of_decide_eq_true below
  · cases taken

/-- What reads back as a number has a magnitude that rounds to the number. -/
theorem isRoundingOf_of_ofNumeral
    {negative : Bool}
    {units : Nat}
    {represents : format.Represents units}
    {numeral : Numeral}
    (readsBack : ofNumeral format numeral = .finite negative units represents) :
    (Binary.finite negative units represents).IsRoundingOf negative numeral.magnitude := by
  have rounded := isRoundingOf_ofDecimal format numeral.negative numeral.significand
    numeral.exponent
  change (ofNumeral format numeral).IsRoundingOf _ numeral.magnitude at rounded
  rw [readsBack] at rounded
  exact ⟨rfl, rounded.2⟩

/-- The decimal with the fewest digits rounds to the number. -/
theorem isRoundingOf_shortest
    (tie : Tie)
    (negative : Bool)
    {units : Nat}
    (represents : format.Represents units) :
    (Binary.finite negative units represents).IsRoundingOf negative
      (shortest tie negative units represents).magnitude := by
  simp only [shortest]
  split
  · case isTrue zero =>
      subst zero
      have rounded := isRoundingOf_finite negative represents
      simpa [Numeral.magnitude] using rounded
  · rw [magnitude_withoutTrailingZeros]
    generalize search : List.findSome? _ _ = found
    cases found with
    | none =>
        rw [Option.getD_none, magnitude_exactNumeral]
        exact isRoundingOf_finite negative represents
    | some found =>
        obtain ⟨kept, _, taken⟩ := List.exists_of_findSome?_eq_some search
        exact isRoundingOf_of_ofNumeral (ofNumeral_of_roundedTo? taken)

/-- One is written with one digit. -/
theorem shortest_one
    (negative : Bool)
    (represents : Format.Represents .binary32 (2 ^ 149)) :
    shortest .up negative (2 ^ 149) represents =
      { negative := negative, significand := 1, exponent := 0 } := by
  have written : ∀ negative,
      shortest .up negative (2 ^ 149)
          (show Format.Represents .binary32 (2 ^ 149) by decide +kernel) =
        { negative := negative, significand := 1, exponent := 0 } := by
    decide +kernel
  exact written negative

/-- The least positive number of single width is written with one digit. -/
theorem shortest_least
    (negative : Bool)
    (represents : Format.Represents .binary32 1) :
    shortest .up negative 1 represents =
      { negative := negative, significand := 1, exponent := -45 } := by
  have written : ∀ negative,
      shortest .up negative 1 (show Format.Represents .binary32 1 by decide +kernel) =
        { negative := negative, significand := 1, exponent := -45 } := by
    decide +kernel
  exact written negative

/-- The text of a finite number for inspection is its sign and its digits in that layout. -/
theorem write_inspect
    (negative : Bool)
    {units : Nat}
    (represents : format.Represents units) :
    (Binary.finite negative units represents).write { style := .inspect } =
      (if negative then ['-'] else []) ++
        Layout.inspected.write (shortest .up negative units represents) := by
  simp [write, Template.padNumber, Template.pad, signText, Template.sign, isNegative,
    magnitudeText]

/-- The sign and the digits of a finite number spell a decimal that rounds to the number. -/
theorem spellsDecimal_write
    {negative : Bool}
    {units : Nat}
    (represents : format.Represents units)
    {template : Template}
    (bare : template = {} ∨ template = { style := .inspect }) :
    Numeral.SpellsDecimal ((Binary.finite negative units represents).write template) negative
      (shortest .up negative units represents).magnitude := by
  have isSign : Numeral.IsSign (if negative then ['-'] else []) negative := by
    cases negative with
    | false => exact .absent
    | true => exact .minus
  have spelled := fun layout : Layout =>
    layout.spellsDecimal_write (shortest .up negative units represents) isSign
  rcases bare with rfl | rfl
  · simpa [write, Template.padNumber, Template.pad, signText, Template.sign, isNegative,
      magnitudeText] using spelled Layout.plain
  · rw [write_inspect]
    exact spelled Layout.inspected

end CheckedLiterals.Binary
