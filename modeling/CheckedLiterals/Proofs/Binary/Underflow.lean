import CheckedLiterals.Proofs.Binary.Bounds
import CheckedLiterals.Proofs.Binary.Extended
import Mathlib.Data.EReal.Operations

namespace CheckedLiterals.Binary

/-!
# What narrowing does to exact values

On its way to single width a number keeps to its side of minus one and one, and it comes
to zero, from either side, just where its exact value is within half a unit of zero; the
half itself is a tie that goes to zero.  Infinities stay what they are.
-/

variable
  {format : Format}
  {number : Binary format}
  {value : EReal}
  {rank : Int}

/-- The greatest magnitude that vanishes in single width: half of its least number. -/
noncomputable def vanishing : EReal :=
  (((2 ^ (-150 : ℤ) : ℚ) : ℝ) : EReal)

theorem vanishing_eq_two_pow : vanishing = ((2 ^ (-150 : ℤ) : ℝ) : EReal) := by
  rw [vanishing]
  push_cast
  rfl

theorem vanishing_eq : vanishing = ((Format.halfUnit .binary32 : ℝ) : EReal) := by
  rw [vanishing, Format.halfUnit, zpow_neg]
  norm_num [Format.scale]

theorem vanishing_nonneg : 0 ≤ vanishing := by
  rw [vanishing]
  exact_mod_cast (show (0 : ℚ) ≤ 2 ^ (-150 : ℤ) by positivity)

/-- The exact value of a number compares with small whole numbers as its rank does. -/
theorem compare_extended
    (isValue : number.extended? = some value)
    (standsAt : number.rank? = some rank)
    (bound : Int)
    (small : bound.natAbs ≤ 2) :
    compare value ((bound : ℝ) : EReal) = compare rank (bound * 2 ^ format.scale) := by
  have exact := compareInt?_of_extended isValue (format.small_le_precision small)
  rw [compareInt?_eq standsAt (format.small_le_precision small), Option.some.injEq] at exact
  exact exact.symm

theorem extended_le_iff
    (isValue : number.extended? = some value)
    (standsAt : number.rank? = some rank)
    (bound : Int)
    (small : bound.natAbs ≤ 2) :
    value ≤ ((bound : ℝ) : EReal) ↔ rank ≤ bound * 2 ^ format.scale := by
  rw [← not_lt, ← not_lt, ← compare_gt_iff_gt, ← compare_gt_iff_gt,
    compare_extended isValue standsAt bound small]

theorem le_extended_iff
    (isValue : number.extended? = some value)
    (standsAt : number.rank? = some rank)
    (bound : Int)
    (small : bound.natAbs ≤ 2) :
    ((bound : ℝ) : EReal) ≤ value ↔ bound * 2 ^ format.scale ≤ rank := by
  rw [← not_lt, ← not_lt, ← compare_lt_iff_lt, ← compare_lt_iff_lt,
    compare_extended isValue standsAt bound small]

/-- Whether an exact value may be what another one comes to in single width. -/
structure NarrowsTo (value narrowed : EReal) : Prop where
  nonpos_iff : narrowed ≤ 0 ↔ value ≤ vanishing
  nonneg_iff : 0 ≤ narrowed ↔ -vanishing ≤ value
  atMostOne : value ≤ 1 → narrowed ≤ 1
  atLeastMinusOne : -1 ≤ value → -1 ≤ narrowed

theorem narrowsTo_infinite (negative : Bool) :
    NarrowsTo (if negative then ⊥ else ⊤) (if negative then ⊥ else ⊤) := by
  cases negative with
  | false => constructor <;> simp [vanishing, ← EReal.coe_neg]
  | true => constructor <;> simp [vanishing, ← EReal.coe_neg]

/-- A rational narrows to whatever is nearest to it in single width. -/
theorem narrowsTo_of_isNearestTo
    {exact : ℚ}
    {single : Binary32}
    {narrowed : EReal}
    (nearest : single.IsNearestTo exact)
    (isNarrowed : single.extended? = some narrowed) :
    NarrowsTo ((exact : ℝ) : EReal) narrowed := by
  obtain ⟨rank, standsAt⟩ := nearest.exists_rank
  have belowZero := extended_le_iff isNarrowed standsAt 0 (by decide)
  have aboveZero := le_extended_iff isNarrowed standsAt 0 (by decide)
  have belowOne := extended_le_iff isNarrowed standsAt 1 (by decide)
  have aboveMinusOne := le_extended_iff isNarrowed standsAt (-1) (by decide)
  simp only [Int.zero_mul, Int.cast_zero, EReal.coe_zero] at belowZero aboveZero
  simp only [Int.cast_one, EReal.coe_one] at belowOne
  simp only [Int.reduceNeg, Int.cast_neg, Int.cast_one, EReal.coe_neg, EReal.coe_one]
    at aboveMinusOne
  constructor
  · rw [belowZero, nearest.rank_nonpos_iff standsAt, vanishing_eq, EReal.coe_le_coe_iff,
      Rat.cast_le]
  · rw [aboveZero, nearest.rank_nonneg_iff standsAt, vanishing_eq, ← EReal.coe_neg,
      EReal.coe_le_coe_iff, ← Rat.cast_neg, Rat.cast_le]
  · intro atMost
    rw [belowOne]
    apply nearest.rank_le standsAt (by decide)
    exact_mod_cast atMost
  · intro atLeast
    rw [aboveMinusOne]
    rw [← EReal.coe_one, ← EReal.coe_neg, EReal.coe_le_coe_iff] at atLeast
    apply nearest.le_rank standsAt (show (-1 : Int).natAbs ≤ 2 by decide)
    exact_mod_cast atLeast

/-- What narrowing makes of a number has an exact value that its exact value narrows to. -/
theorem exists_narrowsTo
    {number : Binary64}
    (isValue : number.extended? = some value) :
    ∃ narrowed,
      (number.convert .binary32).extended? = some narrowed ∧ NarrowsTo value narrowed := by
  cases number with
  | nan => cases isValue
  | infinite negative =>
      rw [extended?, Option.some.injEq] at isValue
      subst isValue
      exact ⟨_, rfl, narrowsTo_infinite negative⟩
  | finite negative units represents =>
      have nearest := isNearestTo_convert .binary32 negative represents
      generalize (Binary.finite negative units represents).convert .binary32 = single at *
      obtain ⟨narrowed, isNarrowed⟩ := exists_extended (show single ≠ .nan by
        rintro rfl
        obtain ⟨_, standsAt⟩ := nearest.exists_rank
        cases standsAt)
      refine ⟨narrowed, isNarrowed, ?_⟩
      have narrows := narrowsTo_of_isNearestTo nearest isNarrowed
      rw [extended?, Option.some.injEq] at isValue
      rw [← isValue]
      exact_mod_cast narrows

/-- The exact value zero is that of the two zeros only. -/
theorem eq_zero_of_extended
    (isZero : number.extended? = some 0) :
    ∃ negative, number = zero negative := by
  cases number with
  | nan => cases isZero
  | infinite negative => cases negative <;> simp [extended?] at isZero
  | finite negative units represents =>
      refine ⟨negative, ?_⟩
      rw [extended?, Option.some.injEq] at isZero
      have none : signed negative units = 0 := by
        simpa using isZero
      have : units = 0 := by
        cases negative <;> simpa [signed] using none
      subst this
      rfl

end CheckedLiterals.Binary
