import CheckedLiterals.LiteralNumber
import CheckedLiterals.Proofs.Binary.Bounds
import CheckedLiterals.Proofs.Binary.Extended

namespace CheckedLiterals

/-!
# Comparing with whole numbers

A float is compared with the number of double width that is nearest to a whole number, so a
large whole number may count as equal to a float that it differs from.  But rounding keeps the
order: what compares as less or as greater is so exactly, and equal are just the floats that
are nearest to the whole number.
-/

namespace Binary

variable
  {format : Format}
  {number other : Binary format}
  {rank bound : Int}

/-- Away from zero, the place on the line gives the sign and the units. -/
theorem signed_inj
    {negative otherNegative : Bool}
    {units otherUnits : Nat}
    (same : signed negative units = signed otherNegative otherUnits)
    (nonzero : signed negative units ≠ 0) :
    negative = otherNegative ∧ units = otherUnits := by
  cases negative <;> cases otherNegative <;> simp [signed] at same nonzero ⊢ <;> omega

/-- So there is one number at a place other than zero. -/
theorem eq_of_rank
    (standsAt : number.rank? = some rank)
    (otherStandsAt : other.rank? = some rank)
    (nonzero : rank ≠ 0) :
    number = other := by
  cases number with
  | nan => cases standsAt
  | infinite negative =>
      cases standsAt
      cases other with
      | nan => cases otherStandsAt
      | infinite otherNegative =>
          rw [rank?, Option.some.injEq] at otherStandsAt
          rw [(signed_inj otherStandsAt.symm nonzero).1]
      | finite otherNegative units represents =>
          rw [rank?, Option.some.injEq] at otherStandsAt
          exact absurd (signed_inj otherStandsAt.symm nonzero).2 represents.2.ne'
  | finite negative units represents =>
      cases standsAt
      cases other with
      | nan => cases otherStandsAt
      | infinite otherNegative =>
          rw [rank?, Option.some.injEq] at otherStandsAt
          exact absurd (signed_inj otherStandsAt.symm nonzero).2 represents.2.ne
      | finite otherNegative otherUnits otherRepresents =>
          rw [rank?, Option.some.injEq] at otherStandsAt
          obtain ⟨rfl, rfl⟩ := signed_inj otherStandsAt.symm nonzero
          rfl

/-- What stands at zero is nearest to zero, whatever its sign. -/
theorem isNearestTo_zero_of_rank
    (standsAt : number.rank? = some 0) :
    number.IsNearestTo 0 := by
  have limitPositive := format.limit_pos
  cases number with
  | nan => cases standsAt
  | infinite negative =>
      rw [rank?, Option.some.injEq] at standsAt
      cases negative <;> simp [signed] at standsAt <;> omega
  | finite negative units represents =>
      have nearest := isNearestTo_finite negative represents
      rw [rank?, Option.some.injEq] at standsAt
      rwa [standsAt, Int.cast_zero, zero_div] at nearest

/-- Only zero is rounded to zero. -/
theorem eq_zero_of_rank_ofInt
    (boundStandsAt : (ofInt format bound).rank? = some 0) :
    bound = 0 := by
  have nearest := isNearestTo_ofInt format bound
  have unit : (0 : Int) < 2 ^ format.scale := by positivity
  rcases lt_trichotomy bound 0 with below | isZero | above
  · have atMost : (0 : Int) ≤ -1 * 2 ^ format.scale :=
      nearest.rank_le boundStandsAt (by decide) (by exact_mod_cast Int.le_sub_one_of_lt below)
    linarith
  · exact isZero
  · have atLeast : 1 * 2 ^ format.scale ≤ (0 : Int) :=
      nearest.le_rank boundStandsAt (by decide) (by exact_mod_cast above)
    linarith

variable
  {boundRank : Int}
  (standsAt : number.rank? = some rank)
  (boundStandsAt : (ofInt format bound).rank? = some boundRank)

include standsAt boundStandsAt

/-- What stands where a whole number is rounded to is nearest to it, and nothing else is. -/
theorem isNearestTo_iff_of_rank :
    number.IsNearestTo bound ↔ rank = boundRank := by
  have boundNearest := isNearestTo_ofInt format bound
  constructor
  · intro nearest
    exact le_antisymm (nearest.rank_mono boundNearest standsAt boundStandsAt le_rfl)
      (boundNearest.rank_mono nearest boundStandsAt standsAt le_rfl)
  · rintro rfl
    by_cases atZero : rank = 0
    · subst atZero
      rw [eq_zero_of_rank_ofInt boundStandsAt, Int.cast_zero]
      exact isNearestTo_zero_of_rank standsAt
    · rw [eq_of_rank standsAt boundStandsAt atZero]
      exact boundNearest

variable
  {value : EReal}
  (isValue : number.extended? = some value)

include isValue

/-- Rounding the whole number does not carry it past the float, on either side. -/
theorem rank_ofInt_mono :
    (value ≤ ((bound : ℝ) : EReal) → rank ≤ boundRank) ∧
      (((bound : ℝ) : EReal) ≤ value → boundRank ≤ rank) := by
  have boundNearest := isNearestTo_ofInt format bound
  obtain ⟨units, _, boundShape⟩ := (isRoundingOf_ofInt format bound).rank
  rw [boundStandsAt, Option.some.injEq] at boundShape
  cases number with
  | nan => cases isValue
  | infinite negative =>
      cases isValue
      cases standsAt
      cases negative with
      | true =>
          refine ⟨fun _ => ?_, fun atLeast => absurd atLeast (EReal.bot_lt_coe _).not_ge⟩
          cases below : decide (bound < 0) <;> simp [signed, below] at boundShape ⊢ <;> omega
      | false =>
          refine ⟨fun atMost => absurd atMost (EReal.coe_lt_top _).not_ge, fun _ => ?_⟩
          cases below : decide (bound < 0) <;> simp [signed, below] at boundShape ⊢ <;> omega
  | finite negative units represents =>
      have nearest := isNearestTo_finite negative represents
      cases isValue
      constructor
      · intro atMost
        rw [EReal.coe_le_coe_iff] at atMost
        exact nearest.rank_mono boundNearest standsAt boundStandsAt (by exact_mod_cast atMost)
      · intro atLeast
        rw [EReal.coe_le_coe_iff] at atLeast
        exact boundNearest.rank_mono nearest boundStandsAt standsAt (by exact_mod_cast atLeast)

end Binary

namespace LiteralNumber

/-- A float is compared by where it and the rounded whole number stand. -/
theorem exists_ranks
    {number : Binary64}
    (isNumber : number ≠ .nan)
    (bound : Int) :
    ∃ rank boundRank,
      number.rank? = some rank ∧
        (Binary.ofInt .binary64 bound).rank? = some boundRank ∧
        (LiteralNumber.float number).compareInt bound = compare rank boundRank := by
  obtain ⟨boundRank, boundStandsAt⟩ := (Binary.isNearestTo_ofInt .binary64 bound).exists_rank
  obtain ⟨rank, standsAt⟩ : ∃ rank, number.rank? = some rank := by
    cases number with
    | nan => exact absurd rfl isNumber
    | infinite negative => exact ⟨_, rfl⟩
    | finite negative units represents => exact ⟨_, rfl⟩
  refine ⟨rank, boundRank, standsAt, boundStandsAt, ?_⟩
  rw [compareInt, Binary.compareInt?, Binary.compare?, standsAt, boundStandsAt]
  rfl

/-- A float never compares against its exact order, and equal only if it is nearest. -/
theorem compareInt_float_faithful
    {number : Binary64}
    {value : EReal}
    (isValue : number.extended? = some value)
    (bound : Int) :
    ((LiteralNumber.float number).compareInt bound = .lt → value < ((bound : ℝ) : EReal)) ∧
      ((LiteralNumber.float number).compareInt bound = .gt → ((bound : ℝ) : EReal) < value) ∧
      ((LiteralNumber.float number).compareInt bound = .eq ↔ number.IsNearestTo bound) := by
  have isNumber : number ≠ .nan := by
    rintro rfl
    cases isValue
  obtain ⟨rank, boundRank, standsAt, boundStandsAt, compared⟩ := exists_ranks isNumber bound
  obtain ⟨upward, downward⟩ := Binary.rank_ofInt_mono standsAt boundStandsAt isValue
  rw [compared, compare_lt_iff_lt, compare_gt_iff_gt, compare_eq_iff_eq,
    Binary.isNearestTo_iff_of_rank standsAt boundStandsAt]
  refine ⟨fun below => ?_, fun above => ?_, Iff.rfl⟩
  · exact lt_of_not_ge fun atLeast => (downward atLeast).not_gt below
  · exact lt_of_not_ge fun atMost => (upward atMost).not_gt above

/-- A larger bound does not compare lower. -/
theorem isAtMost_mono
    {low high : Int}
    (ordered : low ≤ high)
    (number : LiteralNumber) :
    (number.isAtMost low = true → number.isAtMost high = true) ∧
      (number.isAtLeast high = true → number.isAtLeast low = true) := by
  simp only [isAtMost, isAtLeast, bne_iff_ne]
  cases number with
  | integer value =>
      simp only [compareInt, ne_eq, compare_gt_iff_gt, compare_lt_iff_lt, not_lt]
      exact ⟨fun atMost => atMost.trans ordered, fun atLeast => ordered.trans atLeast⟩
  | float number =>
      by_cases isNumber : number = .nan
      · -- What is not a number compares as equal to every bound.
        subst isNumber
        simp [compareInt, Binary.compareInt?, Binary.compare?, Binary.rank?]
      · obtain ⟨rank, lowRank, standsAt, lowStandsAt, lowCompared⟩ := exists_ranks isNumber low
        obtain ⟨_, highRank, same, highStandsAt, highCompared⟩ := exists_ranks isNumber high
        rw [standsAt, Option.some.injEq] at same
        subst same
        have kept : lowRank ≤ highRank :=
          (Binary.isNearestTo_ofInt .binary64 low).rank_mono
            (Binary.isNearestTo_ofInt .binary64 high) lowStandsAt highStandsAt
            (by exact_mod_cast ordered)
        rw [lowCompared, highCompared]
        simp only [ne_eq, compare_gt_iff_gt, compare_lt_iff_lt, not_lt]
        exact ⟨fun atMost => atMost.trans kept, fun atLeast => kept.trans atLeast⟩

/--
A literal's whole number is compared exactly.  A float that is a number, also an infinity,
compares as less than a whole number only if it is less, as greater only if it is greater, and
as equal just where it is the number of double width nearest to the whole number; up to two to
the power 53 it compares exactly.  So whatever is at most a bound is at most every larger bound,
and whatever is at least a bound is at least every smaller one.
-/
theorem compareInt_faithful :
    (∀ (value : Int64) (bound : Int),
        (LiteralNumber.integer value).compareInt bound = compare value.toInt bound) ∧
      (∀ number : Binary64,
        number ≠ .nan →
          ∃ value,
            number.extended? = some value ∧
              ∀ bound : Int,
                ((LiteralNumber.float number).compareInt bound = .lt →
                    value < ((bound : ℝ) : EReal)) ∧
                  ((LiteralNumber.float number).compareInt bound = .gt →
                    ((bound : ℝ) : EReal) < value) ∧
                  ((LiteralNumber.float number).compareInt bound = .eq ↔
                    number.IsNearestTo bound) ∧
                  (bound.natAbs ≤ 2 ^ 53 →
                    (LiteralNumber.float number).compareInt bound =
                      compare value ((bound : ℝ) : EReal))) ∧
      ∀ (number : LiteralNumber) (low high : Int),
        low ≤ high →
          (number.isAtMost low = true → number.isAtMost high = true) ∧
            (number.isAtLeast high = true → number.isAtLeast low = true) := by
  refine ⟨fun _ _ => rfl, ?_, fun number low high ordered => number.isAtMost_mono ordered⟩
  intro number isNumber
  obtain ⟨value, isValue⟩ := Binary.exists_extended isNumber
  refine ⟨value, isValue, fun bound => ?_⟩
  obtain ⟨less, greater, equal⟩ := compareInt_float_faithful isValue bound
  refine ⟨less, greater, equal, fun small => ?_⟩
  rw [compareInt, Binary.compareInt?_of_extended isValue small, Option.getD_some]

/-- The next whole number after two to the power 53 is a tie, and counts as equal to it. -/
theorem compareInt_faithful_tie :
    let number : Binary64 := .finite false (2 ^ 1127) (by decide +kernel)
    number ≠ .nan ∧
      number.extended? = some ((2 ^ 53 : ℝ) : EReal) ∧
      (LiteralNumber.float number).compareInt (2 ^ 53) = .eq ∧
      (LiteralNumber.float number).compareInt (2 ^ 53 + 1) = .eq ∧
      number.IsNearestTo (2 ^ 53 + 1 : Int) ∧
      (LiteralNumber.float number).isAtLeast (2 ^ 53 + 1) = true ∧
      (LiteralNumber.float number).isAtLeast (2 ^ 53) = true := by
  intro number
  have isNumber : number ≠ .nan := nofun
  have equal : (LiteralNumber.float number).compareInt (2 ^ 53 + 1) = .eq := by decide +kernel
  have atLeast : (LiteralNumber.float number).isAtLeast (2 ^ 53 + 1) = true := by decide +kernel
  obtain ⟨_, floats, bounds⟩ := compareInt_faithful
  obtain ⟨value, isValue, compared⟩ := floats number isNumber
  have exact : number.extended? = some ((2 ^ 53 : ℝ) : EReal) := by
    have scaled : (2 ^ 1127 : ℝ) / 2 ^ 1074 = 2 ^ 53 := by
      rw [div_eq_iff (by positivity), ← pow_add]
    rw [← scaled]
    simp only [number, Binary.extended?, Binary.signed, Binary.Format.scale, Nat.cast_pow,
      Nat.cast_ofNat, Bool.false_eq_true, if_false, Int.cast_pow, Int.cast_ofNat]
  rw [exact, Option.some.injEq] at isValue
  have atBound := (compared (2 ^ 53)).2.2.2 (by decide)
  rw [← isValue] at atBound
  refine ⟨isNumber, exact, ?_, equal, (compared _).2.2.1.mp equal, atLeast,
    (bounds _ _ _ (by decide)).2 atLeast⟩
  rw [atBound, compare_eq_iff_eq]
  norm_num

end LiteralNumber

end CheckedLiterals
