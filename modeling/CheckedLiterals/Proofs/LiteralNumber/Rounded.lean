import CheckedLiterals.Proofs.Binary.Overflow
import CheckedLiterals.Proofs.Check.Soundness
import CheckedLiterals.Proofs.LiteralNumber.Spelled

namespace CheckedLiterals.LiteralNumber

/-!
# What a literal rounds to

Read in a format at once, a literal is the number that the decimal in its body rounds to
there.  It is read as a number at all just if what it rounds to in double width is finite,
and then as this or as the whole number that it spells.
-/

open Binary (Format)
open Numeral (SpellsDecimal SpellsInteger)

/-- Whether a number of a format is what a literal rounds to there. -/
def RoundsTo
    {format : Format}
    (text : String)
    (number : Binary format) : Prop :=
  ∃ body negative magnitude,
    IsBody text.toList body ∧
      SpellsDecimal body negative magnitude ∧
      number.IsRoundingOf negative magnitude

variable {text : String}

/-- What a literal rounds to is computed from its body. -/
theorem roundsTo_iff
    {format : Format}
    {number : Binary format} :
    RoundsTo text number ↔
      (Numeral.parse? (body text.toList)).map (Binary.ofNumeral format) = some number := by
  constructor
  · rintro ⟨_, negative, magnitude, isBody, spelled, rounded⟩
    rw [isBody_iff] at isBody
    subst isBody
    obtain ⟨numeral, parsed, rfl, rfl⟩ := Numeral.parse?_eq_some_iff.mpr spelled
    have same : Binary.ofNumeral format numeral = number :=
      (Binary.isRoundingOf_ofDecimal _ _ _ _).unique rounded
    rw [parsed, Option.map_some, same]
  · intro computed
    obtain ⟨numeral, parsed, rfl⟩ := Option.map_eq_some_iff.mp computed
    exact ⟨_, _, _, isBody_iff.mpr rfl, Numeral.parse?_eq_some_iff.mp ⟨numeral, parsed, rfl, rfl⟩,
      Binary.isRoundingOf_ofDecimal _ _ _ _⟩

/-- A decimal with a type name behind it, or with nothing, rounds to what it spells. -/
theorem roundsTo_append
    {format : Format}
    {number : Binary format}
    {decimal suffix : List Char}
    {negative : Bool}
    {magnitude : ℚ}
    (isSuffix : suffix = [] ∨ suffix ∈ typeNames)
    (spelled : SpellsDecimal decimal negative magnitude)
    (rounded : number.IsRoundingOf negative magnitude) :
    RoundsTo (String.ofList (decimal ++ suffix)) number := by
  refine ⟨decimal, negative, magnitude, ?_, spelled, rounded⟩
  rw [String.toList_ofList]
  exact isBody_append (isDecimalCharacter_of_spellsDecimal spelled) isSuffix

/-- A literal that denotes a rational rounds to a number that is nearest to it. -/
theorem Denotes.exists_roundsTo
    {value : ℚ}
    (denotes : Denotes text value)
    (format : Format) :
    ∃ number : Binary format, RoundsTo text number ∧ number.IsNearestTo value := by
  obtain ⟨body, isBody, negative, magnitude, spelled, shape⟩ := denotes
  obtain ⟨number, rounded⟩ :=
    Binary.exists_isRoundingOf format negative spelled.magnitude_nonneg
  exact ⟨number, ⟨body, negative, magnitude, isBody, spelled, rounded⟩,
    negative, magnitude, spelled.magnitude_nonneg, shape, rounded⟩

/-- A literal that is finite in double width is read as what it rounds to, or as a whole number. -/
theorem RoundsTo.parse?_of_finite
    {number : Binary64}
    (rounds : RoundsTo text number)
    (finite : number.isFinite = true) :
    parse? text = some (.float number) ∨
      ∃ integer : Int64,
        parse? text = some (.integer integer) ∧
          (LiteralNumber.float number).StandsFor integer.toInt := by
  obtain ⟨body, negative, magnitude, isBody, spelled, rounded⟩ := rounds
  rw [parse?_eq_ofBody?, ← isBody_iff.mp isBody]
  by_cases whole : ∃ integer : Int64, SpellsInteger body integer.toInt
  · obtain ⟨integer, spelledWhole⟩ := whole
    have same := spelledWhole.spellsValue.unique ⟨negative, magnitude, spelled, rfl⟩
    exact .inr ⟨integer, ofBody?_eq_integer_iff.mpr spelledWhole, finite, negative, magnitude,
      spelled.magnitude_nonneg, same, rounded⟩
  · exact .inl (ofBody?_eq_float_iff.mpr
      ⟨not_exists.mp whole, negative, magnitude, spelled, rounded, finite⟩)

/-- A whole number of 64 bits is finite in double width. -/
theorem isFinite_of_isNearestTo
    {number : Binary64}
    {integer : Int64}
    (nearest : number.IsNearestTo integer.toInt) :
    number.isFinite = true := by
  have lower := integer.minValue_le_toInt
  have upper := integer.toInt_le
  have within : |integer.toInt| ≤ 2 ^ 63 := abs_le.mpr ⟨lower, upper.trans (by decide)⟩
  have bounded : |(integer.toInt : ℚ)| ≤ 2 ^ 63 := by exact_mod_cast within
  exact nearest.isFinite bounded (by decide)

/-- A literal that is infinite in double width is no number. -/
theorem RoundsTo.parse?_of_infinite
    {number : Binary64}
    (rounds : RoundsTo text number)
    (infinite : number.isFinite = false) :
    parse? text = none := by
  obtain ⟨_, negative, magnitude, isBody, spelled, rounded⟩ := rounds
  rw [parse?_eq_ofBody?, ← isBody_iff.mp isBody, ofBody?_eq_none_iff]
  constructor
  · intro integer spelledWhole
    have same := spelledWhole.spellsValue.unique ⟨negative, magnitude, spelled, rfl⟩
    have nearest : number.IsNearestTo integer.toInt :=
      ⟨negative, magnitude, spelled.magnitude_nonneg, same, rounded⟩
    rw [isFinite_of_isNearestTo nearest] at infinite
    cases infinite
  · intro otherNegative otherMagnitude other otherSpelled otherRounded
    obtain ⟨rfl, rfl⟩ := spelled.unique otherSpelled
    rw [← rounded.unique otherRounded]
    exact infinite

end CheckedLiterals.LiteralNumber
