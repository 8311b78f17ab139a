import CheckedLiterals.Proofs.Binary.Order

namespace CheckedLiterals.Binary

/-!
# Where rounding crosses zero and one

A nearest number stands at zero or below just where the rational is at most half a
unit, and at one or below just where it exceeds one by at most half the spacing
there.  In both places a tie goes to the even side, which is the lower one.
Rounding to double width and then to single width may differ from rounding to
single width at once, but whatever it leaves above zero is above zero either way.
-/

variable {format : Format}

namespace Format

/-- Half a unit: what is rounded to zero. -/
def halfUnit (format : Format) : ℚ :=
  1 / 2 ^ (format.scale + 1)

/-- How far above one a rational is still rounded to one. -/
def slack (format : Format) : ℚ :=
  1 / 2 ^ format.precision

theorem halfUnit_pos (format : Format) : 0 < format.halfUnit := by
  unfold halfUnit
  positivity

theorem slack_pos (format : Format) : 0 < format.slack := by
  unfold slack
  positivity

theorem halfUnit_lt_one (format : Format) : format.halfUnit < 1 := by
  rw [halfUnit, div_lt_one (by positivity)]
  exact one_lt_pow₀ one_lt_two (Nat.succ_ne_zero _)

theorem slack_lt_one (format : Format) : format.slack < 1 := by
  rw [slack, div_lt_one (by positivity)]
  exact one_lt_pow₀ one_lt_two format.precision_pos.ne'

theorem two_halfUnit (format : Format) :
    2 * (format.halfUnit * 2 ^ format.scale) = 1 := by
  rw [halfUnit, pow_succ]
  field_simp

/-- Half a unit is less in double width. -/
theorem halfUnit_le : ∀ format : Format, halfUnit .binary64 ≤ format.halfUnit := by
  intro format
  unfold halfUnit
  apply one_div_le_one_div_of_le (by positivity)
  exact pow_le_pow_right₀ one_le_two (by cases format <;> decide)

theorem slack_le : ∀ format : Format, slack .binary64 ≤ format.slack := by
  intro format
  unfold slack
  apply one_div_le_one_div_of_le (by positivity)
  exact pow_le_pow_right₀ one_le_two (by cases format <;> decide)

theorem onGrid_two_pow (format : Format) (shift : Nat) : format.OnGrid (2 ^ shift) := by
  rw [← Nat.one_mul (2 ^ shift)]
  exact onGrid_shifted Nat.one_le_two_pow shift

/-- A whole number of at most the precision is a number of the format below its limit. -/
theorem whole_lt_limit
    (format : Format)
    {count : Nat}
    (small : count ≤ 2 ^ format.precision) :
    count * 2 ^ format.scale < format.limit := by
  have room : format.precision + format.scale < format.reach := by cases format <;> decide
  calc count * 2 ^ format.scale
        ≤ 2 ^ format.precision * 2 ^ format.scale := Nat.mul_le_mul_right _ small
    _ = 2 ^ (format.precision + format.scale) := (Nat.pow_add ..).symm
    _ < 2 ^ format.reach := Nat.pow_lt_pow_right (by decide) room
    _ = format.limit := format.limit_eq.symm

theorem small_le_precision
    (format : Format)
    {bound : Int}
    (small : bound.natAbs ≤ 2) :
    bound.natAbs ≤ 2 ^ format.precision := by
  have : 2 ^ 1 ≤ 2 ^ format.precision := Nat.pow_le_pow_right (by decide) format.precision_pos
  omega

theorem whole_between_limits
    (format : Format)
    {bound : Int}
    (small : bound.natAbs ≤ 2 ^ format.precision) :
    -(format.limit : Int) < bound * 2 ^ format.scale ∧
      bound * 2 ^ format.scale < format.limit := by
  have within := format.whole_lt_limit small
  have magnitude : (bound * 2 ^ format.scale).natAbs = bound.natAbs * 2 ^ format.scale := by
    rw [Int.natAbs_mul, Int.natAbs_pow]
    rfl
  rw [← magnitude] at within
  omega

/-- Above one by half the spacing there is a tie, and one is on its even side. -/
theorem isNearest_one (format : Format) :
    format.IsNearest ((1 + format.slack) * 2 ^ format.scale) (2 ^ format.scale) := by
  have nearest := format.isNearest_nearest
    ((2 ^ format.precision + 1) * 2 ^ format.scale) (Nat.two_pow_pos format.precision)
  have lower : format.nearest ((2 ^ format.precision + 1) * 2 ^ format.scale)
      (2 ^ format.precision) = 2 ^ format.scale := by
    cases format <;> decide +kernel
  have quotient : (((2 ^ format.precision + 1) * 2 ^ format.scale : Nat) /
      (2 ^ format.precision : Nat) : ℚ) = (1 + format.slack) * 2 ^ format.scale := by
    rw [slack]
    push_cast
    field_simp
  rwa [lower, quotient] at nearest

end Format

theorem IsNearestTo.exists_rank
    {value : ℚ}
    {number : Binary format}
    (nearest : number.IsNearestTo value) :
    ∃ rank, number.rank? = some rank := by
  obtain ⟨_, _, _, _, rounded⟩ := nearest
  obtain ⟨units, _, standsAt⟩ := rounded.rank
  exact ⟨_, standsAt⟩

/-- A finite number is nearest to itself. -/
theorem isNearestTo_finite
    (negative : Bool)
    {units : Nat}
    (represents : format.Represents units) :
    (Binary.finite negative units represents).IsNearestTo
      (signed negative units / 2 ^ format.scale) := by
  refine ⟨negative, units / 2 ^ format.scale, by positivity, ?_, rfl, ?_⟩
  · cases negative <;> simp [signed, neg_div]
  · rw [div_mul_cancel₀ _ (by positivity)]
    exact (Format.represents_iff.mp represents).1.isNearest

/-- What is rounded from one format to another is nearest to where it stood. -/
theorem isNearestTo_convert
    (target : Format)
    (negative : Bool)
    {units : Nat}
    (represents : format.Represents units) :
    ((Binary.finite negative units represents).convert target).IsNearestTo
      (signed negative units / 2 ^ format.scale) := by
  refine ⟨negative, units / 2 ^ format.scale, by positivity, ?_,
    isRoundingOf_convert target negative represents⟩
  cases negative <;> simp [signed, neg_div]

/-- A small whole number stands where it is. -/
theorem rank?_ofInt
    (format : Format)
    {value : Int}
    (small : value.natAbs ≤ 2 ^ format.precision) :
    (ofInt format value).rank? = some (value * 2 ^ format.scale) := by
  obtain ⟨units, nearest, standsAt⟩ := (isRoundingOf_ofInt format value).rank
  have exact : format.IsNearest (value.natAbs * 2 ^ format.scale : Nat)
      (value.natAbs * 2 ^ format.scale) :=
    (Format.onGrid_shifted small _).isNearest
  push_cast at exact
  rw [standsAt, nearest.unique exact, Nat.min_eq_left (format.whole_lt_limit small).le]
  by_cases below : value < 0
  · simp only [signed, below, decide_true, ↓reduceIte]
    push_cast
    rw [abs_of_neg below]
    ring_nf
  · simp only [signed, below, decide_false, Bool.false_eq_true, ↓reduceIte]
    push_cast
    rw [abs_of_nonneg (not_lt.mp below)]

/-- A number compares with a small whole number by where the two stand. -/
theorem compareInt?_eq
    {number : Binary format}
    {rank bound : Int}
    (standsAt : number.rank? = some rank)
    (small : bound.natAbs ≤ 2 ^ format.precision) :
    number.compareInt? bound = some (compare rank (bound * 2 ^ format.scale)) := by
  rw [compareInt?, compare?, standsAt, rank?_ofInt format small]

variable
  {value : ℚ}
  {number : Binary format}
  {rank : Int}

/-- A nearest number is above zero just where the rational is above half a unit. -/
theorem IsNearestTo.rank_nonpos_iff
    (nearest : number.IsNearestTo value)
    (standsAt : number.rank? = some rank) :
    rank ≤ 0 ↔ value ≤ format.halfUnit := by
  have unit : (0 : ℚ) < 2 ^ format.scale := by positivity
  have middle := format.two_halfUnit
  constructor
  · intro nonpos
    have bound := nearest.le_middle standsAt nonpos
      (by simpa using format.whole_lt_limit (Nat.zero_le _))
      (format.onGrid_two_pow 0)
      Nat.one_pos
    push_cast at bound
    apply le_of_mul_le_mul_right _ unit
    linarith
  · intro small
    have zeroNearest : (zero false : Binary format).IsNearestTo format.halfUnit :=
      ⟨false, _, format.halfUnit_pos.le, rfl,
        isRoundingOf_zero false format.halfUnit_pos.le middle.le⟩
    exact nearest.rank_mono zeroNearest standsAt rfl small

/-- A nearest number is not below zero just where the rational is not below minus half a unit. -/
theorem IsNearestTo.rank_nonneg_iff
    (nearest : number.IsNearestTo value)
    (standsAt : number.rank? = some rank) :
    0 ≤ rank ↔ -format.halfUnit ≤ value := by
  have mirrored := nearest.neg.rank_nonpos_iff (rank?_neg_of_rank standsAt)
  rw [← neg_nonpos, mirrored, neg_le]

/-- A nearest number is above one just where the rational is past the tie above one. -/
theorem IsNearestTo.rank_le_one_iff
    (nearest : number.IsNearestTo value)
    (standsAt : number.rank? = some rank) :
    rank ≤ 2 ^ format.scale ↔ value ≤ 1 + format.slack := by
  have unit : (0 : ℚ) < 2 ^ format.scale := by positivity
  have oneOnGrid := format.onGrid_two_pow format.scale
  have oneWithin : 2 ^ format.scale < format.limit := by
    simpa using format.whole_lt_limit Nat.one_le_two_pow
  constructor
  · intro atMost
    obtain ⟨bits, bitsShape, room⟩ :
        ∃ bits, format.precision = bits + 1 ∧ bits ≤ format.scale := by
      cases format
      · exact ⟨23, rfl, by decide⟩
      · exact ⟨52, rfl, by decide⟩
    obtain ⟨shift, shiftShape⟩ := Nat.exists_eq_add_of_le room
    have above : format.OnGrid ((2 ^ bits + 1) * 2 ^ shift) := by
      apply Format.onGrid_shifted
      rw [bitsShape, pow_succ]
      have := Nat.two_pow_pos bits
      omega
    have bound := nearest.le_middle standsAt (by exact_mod_cast atMost) oneWithin above (by
      rw [shiftShape, pow_add, Nat.add_mul]
      have := Nat.two_pow_pos shift
      omega)
    push_cast at bound
    apply le_of_mul_le_mul_right _ unit
    have tie : (1 + format.slack) * 2 ^ format.scale =
        (2 ^ format.scale + (2 ^ bits + 1) * 2 ^ shift) / 2 := by
      rw [Format.slack, bitsShape, shiftShape, pow_add, pow_succ]
      field_simp
      ring
    rw [tie]
    linarith
  · intro atMost
    have oneNearest : (.finite false (2 ^ format.scale)
        (Format.represents_iff.mpr ⟨oneOnGrid, oneWithin⟩) : Binary format).IsNearestTo
          (1 + format.slack) :=
      ⟨false, _, (add_pos one_pos format.slack_pos).le, rfl, rfl, format.isNearest_one⟩
    exact_mod_cast nearest.rank_mono oneNearest standsAt rfl atMost

/-- A nearest number is below minus one just where the rational is past the tie there. -/
theorem IsNearestTo.minus_one_le_rank_iff
    (nearest : number.IsNearestTo value)
    (standsAt : number.rank? = some rank) :
    -2 ^ format.scale ≤ rank ↔ -(1 + format.slack) ≤ value := by
  have mirrored := nearest.neg.rank_le_one_iff (rank?_neg_of_rank standsAt)
  rw [neg_le, mirrored, neg_le]

/-- A number stays comparable in any other format, and stays where it was if not above zero. -/
theorem exists_rank_convert
    (target : Format)
    (standsAt : number.rank? = some rank) :
    ∃ converted,
      (number.convert target).rank? = some converted ∧ (rank ≤ 0 → converted ≤ 0) := by
  cases number with
  | nan => cases standsAt
  | infinite negative =>
      refine ⟨_, rfl, ?_⟩
      intro nonpos
      have limitPositive := format.limit_pos
      rw [rank?, Option.some.injEq] at standsAt
      cases negative with
      | false =>
          simp only [signed, Bool.false_eq_true, ↓reduceIte] at standsAt
          omega
      | true => simp [signed]
  | finite negative units represents =>
      rw [rank?, Option.some.injEq] at standsAt
      have nearest := isNearestTo_convert target negative represents
      obtain ⟨converted, convertedRank⟩ := nearest.exists_rank
      refine ⟨converted, convertedRank, ?_⟩
      intro nonpos
      rw [nearest.rank_nonpos_iff convertedRank, standsAt]
      calc (rank / 2 ^ format.scale : ℚ)
            ≤ 0 := div_nonpos_of_nonpos_of_nonneg (by exact_mod_cast nonpos) (by positivity)
        _ ≤ target.halfUnit := target.halfUnit_pos.le

/-- Half a unit of single width is a number of double width. -/
theorem isNearestTo_halfUnit :
    ∃ (number : Binary64) (rank : Int),
      number.IsNearestTo (Format.halfUnit .binary32) ∧
        number.rank? = some rank ∧
        (rank / 2 ^ Format.scale .binary64 : ℚ) = Format.halfUnit .binary32 := by
  obtain ⟨shift, shape⟩ :
      ∃ shift, Format.scale .binary64 = shift + (Format.scale .binary32 + 1) := ⟨924, rfl⟩
  have onGrid := Format.onGrid_two_pow .binary64 shift
  have within : 2 ^ shift < Format.limit .binary64 := by
    have room : Format.scale .binary64 < Format.reach .binary64 := by decide
    rw [Format.limit_eq]
    exact Nat.pow_lt_pow_right (by decide) (by omega)
  have represents := Format.represents_iff.mpr ⟨onGrid, within⟩
  have value : ((signed false (2 ^ shift) : Int) / 2 ^ Format.scale .binary64 : ℚ) =
      Format.halfUnit .binary32 := by
    rw [Format.halfUnit, shape, pow_add]
    simp only [signed, Bool.false_eq_true, ↓reduceIte]
    push_cast
    field_simp
  refine ⟨.finite false (2 ^ shift) represents, signed false (2 ^ shift), ?_, rfl, value⟩
  rw [← value]
  exact isNearestTo_finite false represents

/-- What is at most half a unit of single width is not above zero once it was rounded twice. -/
theorem IsNearestTo.rank_narrowed_nonpos
    {number : Binary64}
    {narrowed : Int}
    (nearest : number.IsNearestTo value)
    (finite : number.isFinite = true)
    (narrowedStands : ((number.convert .binary32).convert .binary64).rank? = some narrowed)
    (small : value ≤ Format.halfUnit .binary32) :
    narrowed ≤ 0 := by
  cases number with
  | nan => cases finite
  | infinite negative => cases finite
  | finite negative units represents =>
      obtain ⟨half, halfRank, halfNearest, halfStands, halfValue⟩ := isNearestTo_halfUnit
      have notAbove : signed negative units ≤ halfRank :=
        nearest.rank_mono halfNearest rfl halfStands small
      have singleNearest := isNearestTo_convert .binary32 negative represents
      obtain ⟨single, singleStands⟩ := singleNearest.exists_rank
      have singleNonpos : single ≤ 0 := by
        rw [singleNearest.rank_nonpos_iff singleStands, ← halfValue]
        have : (signed negative units : ℚ) ≤ halfRank := by exact_mod_cast notAbove
        gcongr
      obtain ⟨converted, convertedStands, kept⟩ := exists_rank_convert .binary64 singleStands
      rw [narrowedStands, Option.some.injEq] at convertedStands
      rw [convertedStands]
      exact kept singleNonpos

theorem IsNearestTo.rank_narrowed_nonneg
    {number : Binary64}
    {narrowed : Int}
    (nearest : number.IsNearestTo value)
    (finite : number.isFinite = true)
    (narrowedStands : ((number.convert .binary32).convert .binary64).rank? = some narrowed)
    (small : -Format.halfUnit .binary32 ≤ value) :
    0 ≤ narrowed := by
  have negFinite : number.neg.isFinite = true := by
    cases number with
    | finite => rfl
    | _ => cases finite
  have mirroredStands :
      ((number.neg.convert .binary32).convert .binary64).rank? = some (-narrowed) := by
    rw [convert_neg, convert_neg, rank?_neg_of_rank narrowedStands]
  have mirrored := nearest.neg.rank_narrowed_nonpos negFinite mirroredStands (neg_le.mp small)
  exact neg_nonpos.mp mirrored

end CheckedLiterals.Binary
