import CheckedLiterals.Proofs.Binary.Threshold
import Mathlib.Data.EReal.Basic
import Mathlib.Order.Compare

namespace CheckedLiterals.Binary

/-!
# Exact values

What a floating-point number stands for among the extended reals: both zeros are zero,
an infinity is past every real number, and what is not a number has no value.  Numbers
compare with small whole numbers as their exact values do, and a number in single width
keeps its exact value in double width.
-/

variable {format : Format}

/-- The exact value of a number, if it is one. -/
noncomputable def extended? : Binary format → Option EReal
  | .nan => none
  | .infinite negative => some (if negative then ⊥ else ⊤)
  | .finite negative units _ =>
      some ((signed negative units / 2 ^ format.scale : ℝ) : EReal)

theorem exists_extended
    {number : Binary format}
    (isNumber : number ≠ .nan) :
    ∃ value, number.extended? = some value := by
  cases number with
  | nan => exact absurd rfl isNumber
  | infinite negative => exact ⟨_, rfl⟩
  | finite negative units represents => exact ⟨_, rfl⟩

/-- Ranks are ordered as the real numbers that they stand for. -/
theorem compare_rank
    (format : Format)
    (rank bound : Int) :
    compare ((rank / 2 ^ format.scale : ℝ) : EReal) ((bound : ℝ) : EReal) =
      compare rank (bound * 2 ^ format.scale) := by
  have unit : (0 : ℝ) < 2 ^ format.scale := by positivity
  have ordered : StrictMono fun rank : Int => ((rank / 2 ^ format.scale : ℝ) : EReal) := by
    intro low high below
    rw [EReal.coe_lt_coe_iff]
    gcongr
  have placed : ((bound : ℝ) : EReal) =
      (((bound * 2 ^ format.scale : Int) / 2 ^ format.scale : ℝ) : EReal) := by
    push_cast
    rw [mul_div_cancel_right₀ _ unit.ne']
  rw [placed, ← cmp_eq_compare, ← cmp_eq_compare]
  exact ordered.cmp_map_eq rank (bound * 2 ^ format.scale)

/-- A number compares with a small whole number as its exact value does. -/
theorem compareInt?_of_extended
    {number : Binary format}
    {value : EReal}
    {bound : Int}
    (isValue : number.extended? = some value)
    (small : bound.natAbs ≤ 2 ^ format.precision) :
    number.compareInt? bound = some (compare value ((bound : ℝ) : EReal)) := by
  cases number with
  | nan => cases isValue
  | infinite negative =>
      obtain ⟨below, above⟩ := format.whole_between_limits small
      rw [extended?, Option.some.injEq] at isValue
      rw [compareInt?_eq rfl small, ← isValue]
      congr 1
      cases negative with
      | true =>
          exact (compare_lt_iff_lt.mpr below).trans
            (compare_lt_iff_lt.mpr (EReal.bot_lt_coe _)).symm
      | false =>
          exact (compare_gt_iff_gt.mpr above).trans
            (compare_gt_iff_gt.mpr (EReal.coe_lt_top _)).symm
  | finite negative units represents =>
      rw [extended?, Option.some.injEq] at isValue
      rw [compareInt?_eq rfl small, ← isValue, compare_rank]

/-- By how many binary places the units of double width are finer than those of single width. -/
def widening : Nat :=
  Format.scale .binary64 - Format.scale .binary32

theorem scale_binary64 : Format.scale .binary64 = Format.scale .binary32 + widening :=
  rfl

theorem mul_two_pow_lt
    {units low shift high : Nat}
    (within : units < 2 ^ low)
    (room : low + shift ≤ high) :
    units * 2 ^ shift < 2 ^ high := by
  calc units * 2 ^ shift
        < 2 ^ low * 2 ^ shift := Nat.mul_lt_mul_of_pos_right within (Nat.two_pow_pos shift)
    _ = 2 ^ (low + shift) := (Nat.pow_add ..).symm
    _ ≤ 2 ^ high := Nat.pow_le_pow_right (by decide) room

/-- What single width represents, double width represents in its finer units. -/
theorem represents_widened
    {units : Nat}
    (represents : Format.Represents .binary32 units) :
    Format.Represents .binary64 (units * 2 ^ widening) := by
  obtain ⟨onGrid, within⟩ := Format.represents_iff.mp represents
  rw [Format.represents_iff]
  constructor
  · obtain ⟨count, shift, bound, rfl⟩ := Format.onGrid_iff.mp onGrid
    rw [Nat.mul_assoc, ← Nat.pow_add]
    apply Format.onGrid_shifted
    exact bound.le.trans (Nat.pow_le_pow_right (by decide) (by decide))
  · rw [Format.limit_eq] at within ⊢
    exact mul_two_pow_lt within (by decide)

/-- Units that come to a number of units of the other format are not rounded. -/
theorem convert_exact
    {target : Format}
    (negative : Bool)
    {units converted : Nat}
    (represents : format.Represents units)
    (convertedRepresents : target.Represents converted)
    (same : (converted * 2 ^ format.scale : ℚ) = units * 2 ^ target.scale) :
    (Binary.finite negative units represents).convert target =
      .finite negative converted convertedRepresents := by
  apply (isRoundingOf_convert target negative represents).unique
  refine ⟨rfl, ?_⟩
  have shape : (units / 2 ^ format.scale * 2 ^ target.scale : ℚ) = converted := by
    rw [div_mul_eq_mul_div, ← same, mul_div_cancel_right₀ _ (by positivity)]
  rw [shape]
  exact (Format.represents_iff.mp convertedRepresents).1.isNearest

/-- Nothing is rounded on the way from single to double width. -/
theorem convert_widened
    (negative : Bool)
    {units : Nat}
    (represents : Format.Represents .binary32 units) :
    (Binary.finite negative units represents).convert .binary64 =
      .finite negative (units * 2 ^ widening) (represents_widened represents) := by
  apply convert_exact
  rw [scale_binary64, pow_add]
  push_cast
  ring

theorem signed_mul
    (negative : Bool)
    (units count : Nat) :
    signed negative (units * count) = signed negative units * count := by
  cases negative with
  | false => exact Int.natCast_mul units count
  | true =>
      simp only [signed, ↓reduceIte]
      rw [Int.natCast_mul, Int.neg_mul]

/-- A number of single width keeps its exact value in double width. -/
theorem extended?_widened (number : Binary32) :
    (number.convert .binary64).extended? = number.extended? := by
  cases number with
  | nan => rfl
  | infinite negative => rfl
  | finite negative units represents =>
      have finer : (signed negative (units * 2 ^ widening) : ℝ) =
          signed negative units * 2 ^ widening := by
        rw [signed_mul]
        push_cast
        rfl
      rw [convert_widened, extended?, extended?, finer, scale_binary64, pow_add,
        mul_div_mul_right _ _ (by positivity)]

end CheckedLiterals.Binary
