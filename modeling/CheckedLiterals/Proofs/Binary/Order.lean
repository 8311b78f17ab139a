import CheckedLiterals.Proofs.Binary.Rounded

namespace CheckedLiterals.Binary

/-!
# Order of rounded numbers

A number is nearest to a rational if the rational is a sign and a magnitude that
round to it; so both zeros are nearest to zero.  Rounding never reverses an order,
neither among rationals nor against whole numbers, and it commutes with a change
of sign.
-/

variable {format : Format}

/-- Whether a number is nearest to a rational, which may be past all finite numbers. -/
def IsNearestTo (value : ℚ) (number : Binary format) : Prop :=
  ∃ negative magnitude,
    0 ≤ magnitude ∧
      value = (if negative then -magnitude else magnitude) ∧
      number.IsRoundingOf negative magnitude

theorem signed_neg (negative : Bool) (units : Nat) :
    signed (!negative) units = -signed negative units := by
  cases negative <;> simp [signed]

/-- What a sign and a magnitude round to stands at the nearest units, or at the limit. -/
theorem IsRoundingOf.rank
    {negative : Bool}
    {magnitude : ℚ}
    {number : Binary format}
    (rounded : number.IsRoundingOf negative magnitude) :
    ∃ units,
      format.IsNearest (magnitude * 2 ^ format.scale) units ∧
        number.rank? = some (signed negative (min units format.limit)) := by
  cases number with
  | nan => exact rounded.elim
  | infinite sign =>
      obtain ⟨rfl, units, past, nearest⟩ := rounded
      exact ⟨units, nearest, by rw [rank?, Nat.min_eq_right past]⟩
  | finite sign units represents =>
      obtain ⟨rfl, nearest⟩ := rounded
      exact ⟨units, nearest, by rw [rank?, Nat.min_eq_left represents.2.le]⟩

/-- A sign and a magnitude always round to some number. -/
theorem exists_isRoundingOf
    (format : Format)
    (negative : Bool)
    {magnitude : ℚ}
    (nonneg : 0 ≤ magnitude) :
    ∃ number : Binary format, number.IsRoundingOf negative magnitude := by
  obtain ⟨units, nearest⟩ := format.exists_isNearest
    (show 0 ≤ magnitude * 2 ^ format.scale by positivity)
  by_cases within : units < format.limit
  · exact ⟨.finite negative units (Format.represents_iff.mpr ⟨nearest.onGrid, within⟩),
      rfl, nearest⟩
  · exact ⟨.infinite negative, rfl, units, Nat.not_lt.mp within, nearest⟩

theorem abs_ite_neg
    (negative : Bool)
    {magnitude : ℚ}
    (nonneg : 0 ≤ magnitude) :
    |if negative then -magnitude else magnitude| = magnitude := by
  rw [apply_ite abs, abs_neg, ite_self, abs_of_nonneg nonneg]

theorem eq_ite_neg_abs (value : ℚ) :
    value = if decide (value < 0) then -|value| else |value| := by
  by_cases below : value < 0
  · simp [below, abs_of_neg below]
  · simp [below, abs_of_nonneg (not_lt.mp below)]

/-- The number nearest to a rational, ties to even. -/
def ofRat (format : Format) (value : ℚ) : Binary format :=
  ofRatio format (decide (value < 0)) (value.num.natAbs <<< format.scale) value.den

theorem isNearestTo_ofRat
    (format : Format)
    (value : ℚ) :
    (ofRat format value).IsNearestTo value := by
  refine ⟨decide (value < 0), |value|, abs_nonneg value, eq_ite_neg_abs value, ?_⟩
  apply isRoundingOf_ofRatio _ value.den_pos
  have quotient : |value| = value.num.natAbs / value.den := by
    rw [Nat.cast_natAbs, Int.cast_abs, ← Rat.num_div_den |value|, Rat.num_abs_eq_abs_num,
      Rat.den_abs_eq_den, Int.cast_abs]
  rw [quotient, Nat.shiftLeft_eq]
  push_cast
  ring

theorem exists_isNearestTo
    (format : Format)
    (value : ℚ) :
    ∃ number : Binary format, number.IsNearestTo value :=
  ⟨_, isNearestTo_ofRat format value⟩

/-- What is nearest to a rational other than zero has its sign. -/
theorem IsNearestTo.isRoundingOf
    {value : ℚ}
    {number : Binary format}
    (nearest : number.IsNearestTo value)
    (nonzero : value ≠ 0) :
    number.IsRoundingOf (decide (value < 0)) |value| := by
  obtain ⟨negative, magnitude, nonneg, rfl, rounded⟩ := nearest
  rw [abs_ite_neg negative nonneg]
  have sign : decide ((if negative then -magnitude else magnitude) < 0) = negative := by
    cases negative with
    | false => simpa using nonneg
    | true =>
        have positive := nonneg.lt_of_ne' (by simpa using nonzero)
        simpa using positive
  rwa [sign]

/-- A larger rational has no lower nearest number. -/
theorem IsNearestTo.rank_mono
    {lower upper : ℚ}
    {lowNumber highNumber : Binary format}
    {low high : Int}
    (lowNearest : lowNumber.IsNearestTo lower)
    (highNearest : highNumber.IsNearestTo upper)
    (lowRank : lowNumber.rank? = some low)
    (highRank : highNumber.rank? = some high)
    (ordered : lower ≤ upper) :
    low ≤ high := by
  obtain ⟨lowNegative, lowMagnitude, lowNonneg, rfl, lowRounded⟩ := lowNearest
  obtain ⟨highNegative, highMagnitude, highNonneg, rfl, highRounded⟩ := highNearest
  obtain ⟨lowUnits, lowUnitsNearest, lowShape⟩ := lowRounded.rank
  obtain ⟨highUnits, highUnitsNearest, highShape⟩ := highRounded.rank
  rw [lowShape, Option.some.injEq] at lowRank
  rw [highShape, Option.some.injEq] at highRank
  subst lowRank highRank
  have scaled : ∀ {left right : ℚ}, left ≤ right →
      left * 2 ^ format.scale ≤ right * 2 ^ format.scale :=
    fun bound => mul_le_mul_of_nonneg_right bound (by positivity)
  cases lowNegative with
  | true =>
      cases highNegative with
      | true =>
          have reversed := highUnitsNearest.mono lowUnitsNearest
            (scaled (by simpa using ordered))
          simp only [signed, ↓reduceIte]
          omega
      | false =>
          simp only [signed, ↓reduceIte, Bool.false_eq_true]
          omega
  | false =>
      cases highNegative with
      | true =>
          -- Then both are zero.
          simp only [Bool.false_eq_true, ↓reduceIte] at ordered
          have lowZero := lowUnitsNearest.unique
            (Format.isNearest_zero (by positivity) (by
              rw [show lowMagnitude = 0 by linarith, zero_mul, mul_zero]
              exact zero_le_one))
          have highZero := highUnitsNearest.unique
            (Format.isNearest_zero (by positivity) (by
              rw [show highMagnitude = 0 by linarith, zero_mul, mul_zero]
              exact zero_le_one))
          simp [lowZero, highZero, signed]
      | false =>
          have kept := lowUnitsNearest.mono highUnitsNearest
            (scaled (by simpa using ordered))
          simp only [signed, Bool.false_eq_true, ↓reduceIte]
          omega

/-- A rational is no higher than half way from where its nearest number stands to a grid point above. -/
theorem IsNearestTo.le_middle
    {value : ℚ}
    {number : Binary format}
    {rank : Int}
    {low high : Nat}
    (nearest : number.IsNearestTo value)
    (standsAt : number.rank? = some rank)
    (bound : rank ≤ low)
    (within : low < format.limit)
    (onGrid : format.OnGrid high)
    (ordered : low < high) :
    2 * (value * 2 ^ format.scale) ≤ low + high := by
  obtain ⟨negative, magnitude, nonneg, rfl, rounded⟩ := nearest
  obtain ⟨units, unitsNearest, shape⟩ := rounded.rank
  rw [shape, Option.some.injEq] at standsAt
  subst standsAt
  have scaledNonneg : 0 ≤ magnitude * 2 ^ format.scale := by positivity
  have sumNonneg : (0 : ℚ) ≤ low + high := by positivity
  cases negative with
  | true =>
      simp only [↓reduceIte]
      linarith
  | false =>
      simp only [signed, Bool.false_eq_true, ↓reduceIte] at bound ⊢
      have unitsBound : units ≤ low := by omega
      have middle := unitsNearest.le_middle onGrid (by omega)
      have : (units : ℚ) ≤ low := Nat.cast_le.mpr unitsBound
      linarith

/-- Rounding commutes with a change of sign. -/
theorem IsNearestTo.neg
    {value : ℚ}
    {number : Binary format}
    (nearest : number.IsNearestTo value) :
    number.neg.IsNearestTo (-value) := by
  obtain ⟨negative, magnitude, nonneg, rfl, rounded⟩ := nearest
  refine ⟨!negative, magnitude, nonneg, by cases negative <;> simp, ?_⟩
  cases number with
  | nan => exact rounded
  | infinite sign => exact ⟨congrArg not rounded.1, rounded.2⟩
  | finite sign units represents => exact ⟨congrArg not rounded.1, rounded.2⟩

theorem rank?_neg (number : Binary format) :
    number.neg.rank? = number.rank?.map (- ·) := by
  cases number <;> simp [neg, rank?, signed_neg]

theorem rank?_neg_of_rank
    {number : Binary format}
    {rank : Int}
    (standsAt : number.rank? = some rank) :
    number.neg.rank? = some (-rank) := by
  rw [rank?_neg, standsAt, Option.map_some]

theorem convert_neg (target : Format) (number : Binary format) :
    number.neg.convert target = (number.convert target).neg := by
  cases number with
  | nan => rfl
  | infinite sign => rfl
  | finite sign units represents =>
      simp only [neg, convert, ofRatio]
      split <;> rfl

end CheckedLiterals.Binary
