import CheckedLiterals.Proofs.Binary.Twice
import CheckedLiterals.Proofs.LiteralNumber.Rounded

namespace CheckedLiterals.LiteralNumber

/-!
# Narrowed floats

A float that is narrowed to single width was rounded twice.  It is what the literal
rounds to in single width at once, unless its double-width number is a tie there and the
literal denotes a rational on the side that the tie is decided against.
-/

open Binary (Format)

/-- A float that was read is what the literal rounds to, and it is finite. -/
theorem exists_rounded_of_parse?
    {text : String}
    {number : Binary64}
    (read : parse? text = some (.float number)) :
    ∃ negative magnitude,
      (∀ (format : Format) (other : Binary format),
        RoundsTo text other ↔ other.IsRoundingOf negative magnitude) ∧
        Denotes text (if negative then -magnitude else magnitude) ∧
        0 ≤ magnitude ∧
        number.IsRoundingOf negative magnitude ∧
        number.isFinite = true := by
  rw [parse?_eq_ofBody?] at read
  obtain ⟨_, negative, magnitude, spelled, rounded, finite⟩ := ofBody?_eq_float_iff.mp read
  refine ⟨negative, magnitude, ?_, ⟨_, isBody_iff.mpr rfl, negative, magnitude, spelled, rfl⟩,
    spelled.magnitude_nonneg, rounded, finite⟩
  intro format other
  constructor
  · rintro ⟨_, otherNegative, otherMagnitude, isBody, otherSpelled, otherRounded⟩
    rw [isBody_iff] at isBody
    subst isBody
    obtain ⟨rfl, rfl⟩ := spelled.unique otherSpelled
    exact otherRounded
  · intro otherRounded
    exact ⟨_, negative, magnitude, isBody_iff.mpr rfl, spelled, otherRounded⟩

/--
A literal that is read as a float denotes a rational and rounds to one number of single width.
The float becomes just this number when it is narrowed, infinities and the sign of zero
included, unless it loses a tie: it is half way between two numbers of single width, or
between the largest of them and the limit, and the rational is on the other side of the tie
than the number that the tie is decided for.
-/
theorem narrowed?_eq_iff
    {text : String}
    {number : Binary64}
    (read : parse? text = some (.float number)) :
    ∃ (value : ℚ) (single : Binary32),
      Denotes text value ∧
        (∀ other : Binary32, RoundsTo text other ↔ other = single) ∧
        ((LiteralNumber.float number).narrowed? = some (.float (single.convert .binary64)) ↔
          ¬number.LosesTie |value|) := by
  obtain ⟨negative, magnitude, roundsTo, denotes, nonneg, rounded, finite⟩ :=
    exists_rounded_of_parse? read
  obtain ⟨single, straight⟩ := Binary.exists_isRoundingOf .binary32 negative nonneg
  refine ⟨_, single, denotes, ?_, ?_⟩
  · intro other
    rw [roundsTo]
    constructor
    · intro otherRounded
      exact otherRounded.unique straight
    · rintro rfl
      exact straight
  · rw [Binary.abs_ite_neg negative nonneg,
      ← Binary.convert_eq_iff_not_losesTie rounded finite straight,
      ← Binary.convert_binary64_injective.eq_iff]
    simp only [narrowed?, Option.some.injEq, LiteralNumber.float.injEq]

theorem represents_halfLeast : Format.binary64.Represents (2 ^ 924) := by
  decide +kernel

/--
Right above half of the least number of single width, a tie is lost: the literal rounds to the
least number, but its float is narrowed to zero.
-/
theorem narrowed?_eq_iff_halfLeast :
    let text := "7.006492321624086e-46"
    let double : Binary64 := .finite false (2 ^ 924) represents_halfLeast
    parse? text = some (.float double) ∧
      ∃ value, Denotes text value ∧ double.LosesTie |value| := by
  intro text double
  have read : parse? text = some (.float double) := by decide +kernel
  obtain ⟨value, single, denotes, roundsTo, kept⟩ := narrowed?_eq_iff read
  have least : RoundsTo text (Binary.finite false 1 (by decide +kernel) : Binary32) :=
    roundsTo_iff.mpr (by decide +kernel)
  rw [roundsTo] at least
  subst least
  refine ⟨read, value, denotes, ?_⟩
  by_contra notLost
  exact absurd (kept.mpr notLost) (by decide +kernel)

/-- Right above 16777217, which is half way between two neighbours, a float is narrowed down. -/
theorem narrowed?_ne_single :
    let text := "16777217.000000001"
    let double : Binary64 := .finite false (16777217 * 2 ^ 1074) (by decide +kernel)
    let single : Binary32 := .finite false (16777218 * 2 ^ 149) (by decide +kernel)
    parse? text = some (.float double) ∧
      RoundsTo text single ∧
      (LiteralNumber.float double).narrowed? ≠ some (.float (single.convert .binary64)) := by
  intro text double single
  exact ⟨by decide +kernel, roundsTo_iff.mpr (by decide +kernel), by decide +kernel⟩

end CheckedLiterals.LiteralNumber
