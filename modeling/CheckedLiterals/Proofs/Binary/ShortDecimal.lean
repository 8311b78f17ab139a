import CheckedLiterals.Proofs.Binary.Bounds
import CheckedLiterals.Proofs.Binary.Extended
import CheckedLiterals.Proofs.Binary.Overflow
import CheckedLiterals.Proofs.Binary.ReadBack

namespace CheckedLiterals.Binary

/-!
# Short decimals of single width

A number of single width is written with the fewest digits, and read in double width.
There the digits need not give the number itself, only a neighbour of it.  But zero and
one are written exactly, and no positive number is written as less than five eighths of
the least one.  That much is kept in double width, and it is more than the half that
vanishes when the number is narrowed again.
-/

/--
Whether a magnitude stands to zero and to one as units of single width do, and is not much
less than the least number unless it is zero.
-/
structure StandsLike (units : Nat) (magnitude : ℚ) : Prop where
  zero : units = 0 → magnitude = 0
  positive : 0 < units → 5 / 8 ≤ magnitude * 2 ^ Format.scale .binary32
  atMostOne : units ≤ 2 ^ Format.scale .binary32 → magnitude ≤ 1
  atLeastOne : 2 ^ Format.scale .binary32 ≤ units → 1 ≤ magnitude

variable
  {units : Nat}
  {magnitude : ℚ}

theorem StandsLike.nonneg (stands : StandsLike units magnitude) : 0 ≤ magnitude := by
  rcases Nat.eq_zero_or_pos units with zero | positive
  · exact (stands.zero zero).ge
  · have above := stands.positive positive
    by_contra below
    have := mul_nonpos_of_nonpos_of_nonneg (not_le.mp below).le
      (show (0 : ℚ) ≤ 2 ^ Format.scale .binary32 by positivity)
    linarith

/-- A magnitude is still positive in any format if it stands like a positive number. -/
theorem StandsLike.halfUnit_lt
    (stands : StandsLike units magnitude)
    (positive : 0 < units)
    (format : Format) :
    format.halfUnit < magnitude := by
  have finest : format.halfUnit ≤ Format.halfUnit .binary32 := by
    cases format with
    | binary32 => exact le_rfl
    | binary64 => exact Format.halfUnit_le .binary32
  have unit : (0 : ℚ) < 2 ^ Format.scale .binary32 := by positivity
  have half := Format.two_halfUnit .binary32
  have above := stands.positive positive
  have past : Format.halfUnit .binary32 < magnitude := by
    apply lt_of_mul_lt_mul_right _ unit.le
    linarith
  exact finest.trans_lt past

/--
With a sign, a magnitude that stands like units is not above zero or one where they are not,
and is positive in any format where they are.
-/
theorem StandsLike.sides
    (stands : StandsLike units magnitude)
    (negative : Bool)
    (format : Format) :
    (signed negative units ≤ 0 → (if negative then -magnitude else magnitude) ≤ 0) ∧
      (0 < signed negative units →
        format.halfUnit < if negative then -magnitude else magnitude) ∧
      (signed negative units ≤ 2 ^ Format.scale .binary32 →
        (if negative then -magnitude else magnitude) ≤ 1) := by
  have nonneg := stands.nonneg
  cases negative with
  | false =>
      refine ⟨?_, ?_, ?_⟩
      · intro (nonpos : (units : Int) ≤ 0)
        exact (stands.zero (by omega)).le
      · intro (positive : 0 < (units : Int))
        exact stands.halfUnit_lt (by omega) format
      · intro (atMost : (units : Int) ≤ 2 ^ Format.scale .binary32)
        exact stands.atMostOne (by exact_mod_cast atMost)
  | true =>
      refine ⟨?_, ?_, ?_⟩
      · intro _
        exact neg_nonpos.mpr nonneg
      · intro positive
        exact absurd positive (by simp [signed])
      · intro _
        exact (neg_nonpos.mpr nonneg).trans zero_le_one

/-- What rounds to less than one is less than one. -/
theorem lt_one_of_isNearest
    {format : Format}
    (nearest : format.IsNearest (magnitude * 2 ^ format.scale) units)
    (below : units < 2 ^ format.scale) :
    magnitude < 1 := by
  by_contra notBelow
  have atLeast := nearest.point_le (format.onGrid_two_pow format.scale) (by
    push_cast
    exact le_mul_of_one_le_left (by positivity) (not_lt.mp notBelow))
  exact below.not_ge atLeast

/-- What rounds to more than one is more than one. -/
theorem one_lt_of_isNearest
    {format : Format}
    (nearest : format.IsNearest (magnitude * 2 ^ format.scale) units)
    (above : 2 ^ format.scale < units) :
    1 < magnitude := by
  by_contra notAbove
  have atMost := nearest.le_point (format.onGrid_two_pow format.scale) (by
    push_cast
    exact mul_le_of_le_one_left (by positivity) (not_lt.mp notAbove))
  exact above.not_ge atMost

/-- The decimal with the fewest digits stands like the number that it is written for. -/
theorem standsLike_shortest
    (negative : Bool)
    (represents : Format.Represents .binary32 units) :
    StandsLike units (shortest .up negative units represents).magnitude := by
  have nearest := (isRoundingOf_shortest .up negative represents).2
  have one : units = 2 ^ Format.scale .binary32 →
      (shortest .up negative units represents).magnitude = 1 := by
    rintro rfl
    rw [show shortest .up negative _ represents = _ from shortest_one negative represents]
    norm_num [Numeral.magnitude]
  refine ⟨?_, ?_, ?_, ?_⟩
  · rintro rfl
    simp [shortest, Numeral.magnitude]
  · intro positive
    rcases Nat.lt_or_eq_of_le (Nat.succ_le_of_lt positive) with many | least
    · have middle := nearest.middle_le (Format.onGrid_two_pow .binary32 0) many
      have : (2 : ℚ) ≤ units := by exact_mod_cast many
      push_cast at middle
      linarith
    · subst least
      rw [shortest_least]
      norm_num [Numeral.magnitude, Format.scale]
  · intro atMost
    rcases Nat.lt_or_eq_of_le atMost with less | same
    · exact (lt_one_of_isNearest nearest less).le
    · exact (one same).le
  · intro atLeast
    rcases Nat.lt_or_eq_of_le atLeast with more | same
    · exact (one_lt_of_isNearest nearest more).le
    · exact (one same.symm).ge

/-- What stands like a number of single width still does once it was rounded to double width. -/
theorem StandsLike.rounded
    {rounded : Nat}
    (stands : StandsLike units magnitude)
    (nearest : Format.IsNearest .binary64 (magnitude * 2 ^ Format.scale .binary64) rounded) :
    StandsLike units (rounded / 2 ^ Format.scale .binary64) := by
  have unit : (0 : ℚ) < 2 ^ Format.scale .binary64 := by positivity
  have onGrid := Format.onGrid_two_pow .binary64 (Format.scale .binary64)
  refine ⟨?_, ?_, ?_, ?_⟩
  · intro zero
    rw [stands.zero zero, zero_mul] at nearest
    rw [nearest.unique (Format.isNearest_zero le_rfl (by norm_num)), Nat.cast_zero, zero_div]
  · intro positive
    -- Five eighths of the least number of single width are a number of double width.
    have eighths : Format.OnGrid .binary64 (5 * 2 ^ (widening - 3)) :=
      Format.onGrid_shifted (by decide) _
    have shape : (5 / 8 : ℚ) * 2 ^ widening = (5 * 2 ^ (widening - 3) : Nat) := by
      rw [show widening = widening - 3 + 3 from rfl, pow_add]
      push_cast
      ring
    have atLeast := nearest.point_le eighths (by
      rw [← shape, scale_binary64, pow_add, ← mul_assoc]
      exact mul_le_mul_of_nonneg_right (stands.positive positive) (by positivity))
    have kept : (5 / 8 : ℚ) * 2 ^ widening ≤ rounded := by
      rw [shape]
      exact_mod_cast atLeast
    rw [div_mul_eq_mul_div, le_div_iff₀ unit, scale_binary64, pow_add]
    calc (5 / 8 : ℚ) * (2 ^ Format.scale .binary32 * 2 ^ widening)
          = 5 / 8 * 2 ^ widening * 2 ^ Format.scale .binary32 := by ring
      _ ≤ rounded * 2 ^ Format.scale .binary32 :=
          mul_le_mul_of_nonneg_right kept (by positivity)
  · intro atMost
    rw [div_le_one unit]
    exact_mod_cast nearest.le_point onGrid (by
      push_cast
      exact mul_le_of_le_one_left unit.le (stands.atMostOne atMost))
  · intro atLeast
    rw [one_le_div unit]
    exact_mod_cast nearest.point_le onGrid (by
      push_cast
      exact le_mul_of_one_le_left unit.le (stands.atLeastOne atLeast))

/-- What rounds to a finite number is not past all of them. -/
theorem le_of_isNearest
    {format : Format}
    (represents : format.Represents units)
    (nearest : format.IsNearest (magnitude * 2 ^ format.scale) units) :
    magnitude ≤ 2 ^ (format.reach - format.scale) := by
  have unit : (0 : ℚ) < 2 ^ format.scale := by positivity
  have split : format.reach = format.reach - format.scale + format.scale := by
    cases format <;> rfl
  by_contra past
  have atLeast := nearest.point_le format.onGrid_limit (by
    rw [Format.limit_eq, split, pow_add]
    push_cast
    exact mul_le_mul_of_nonneg_right (not_le.mp past).le unit.le)
  exact atLeast.not_gt represents.2

/-- The digits of a number of single width round to a finite number of double width. -/
theorem exists_rounded_shortest
    (negative : Bool)
    {units : Nat}
    (represents : Format.Represents .binary32 units) :
    ∃ (rounded : Nat) (within : Format.Represents .binary64 rounded),
      (Binary.finite negative rounded within).IsRoundingOf negative
        (shortest .up negative units represents).magnitude := by
  have nonneg := (standsLike_shortest negative represents).nonneg
  have atMost := le_of_isNearest represents
    (isRoundingOf_shortest .up negative represents).2
  obtain ⟨number, rounded⟩ := exists_isRoundingOf .binary64 negative nonneg
  have nearest : number.IsNearestTo _ := ⟨negative, _, nonneg, rfl, rounded⟩
  have bounded : |if negative then -(shortest .up negative units represents).magnitude
      else (shortest .up negative units represents).magnitude| ≤ 2 ^ 128 := by
    rw [abs_ite_neg negative nonneg]
    exact atMost
  have finite := nearest.isFinite bounded (by decide)
  cases number with
  | nan => cases finite
  | infinite sign => cases finite
  | finite sign units represents =>
      have sameSign := rounded.1
      subst sameSign
      exact ⟨units, represents, rounded⟩

end CheckedLiterals.Binary
