import CheckedLiterals.Proofs.Binary.Threshold
import Mathlib.Order.Compare

namespace CheckedLiterals.Binary

/-!
# What rounding does not cross

Small whole numbers belong to every format, so no rounding crosses them: neither the
rounding of a rational nor a change of the format.  What is rounded from a whole number
therefore compares with minus one, zero and one as the whole number itself, however often
it is rounded.
-/

variable
  {format : Format}
  {number : Binary format}
  {rank bound : Int}

/-- A whole number is rounded to what is nearest to it. -/
theorem isNearestTo_ofInt (format : Format) (value : Int) :
    (ofInt format value).IsNearestTo value := by
  refine ⟨decide (value < 0), value.natAbs, by positivity, ?_, isRoundingOf_ofInt format value⟩
  by_cases below : value < 0
  · simp [below, abs_of_neg]
  · simp [below, abs_of_nonneg (not_lt.mp below)]

/-- Rounding does not go up past a small whole number. -/
theorem IsNearestTo.rank_le
    {value : ℚ}
    (nearest : number.IsNearestTo value)
    (standsAt : number.rank? = some rank)
    (small : bound.natAbs ≤ 2)
    (atMost : value ≤ bound) :
    rank ≤ bound * 2 ^ format.scale :=
  nearest.rank_mono (isNearestTo_ofInt format bound) standsAt
    (rank?_ofInt format (format.small_le_precision small)) atMost

/-- Rounding does not go down past a small whole number. -/
theorem IsNearestTo.le_rank
    {value : ℚ}
    (nearest : number.IsNearestTo value)
    (standsAt : number.rank? = some rank)
    (small : bound.natAbs ≤ 2)
    (atLeast : bound ≤ value) :
    bound * 2 ^ format.scale ≤ rank :=
  (isNearestTo_ofInt format bound).rank_mono nearest
    (rank?_ofInt format (format.small_le_precision small)) standsAt atLeast

/-- A change of the format does not go up past a small whole number. -/
theorem rank_convert_le
    {target : Format}
    {converted : Int}
    (standsAt : number.rank? = some rank)
    (convertedStands : (number.convert target).rank? = some converted)
    (small : bound.natAbs ≤ 2)
    (atMost : rank ≤ bound * 2 ^ format.scale) :
    converted ≤ bound * 2 ^ target.scale := by
  cases number with
  | nan => cases standsAt
  | infinite negative =>
      obtain ⟨_, above⟩ := format.whole_between_limits (format.small_le_precision small)
      obtain ⟨below, _⟩ := target.whole_between_limits (target.small_le_precision small)
      rw [rank?, Option.some.injEq] at standsAt
      rw [convert, rank?, Option.some.injEq] at convertedStands
      cases negative with
      | true =>
          simp only [signed, ↓reduceIte] at convertedStands
          omega
      | false =>
          simp only [signed, Bool.false_eq_true, ↓reduceIte] at standsAt
          omega
  | finite negative units represents =>
      rw [rank?, Option.some.injEq] at standsAt
      apply (isNearestTo_convert target negative represents).rank_le convertedStands small
      rw [standsAt, div_le_iff₀ (by positivity)]
      exact_mod_cast atMost

/-- A change of the format does not go down past a small whole number. -/
theorem le_rank_convert
    {target : Format}
    {converted : Int}
    (standsAt : number.rank? = some rank)
    (convertedStands : (number.convert target).rank? = some converted)
    (small : bound.natAbs ≤ 2)
    (atLeast : bound * 2 ^ format.scale ≤ rank) :
    bound * 2 ^ target.scale ≤ converted := by
  have mirrored : -converted ≤ -bound * 2 ^ target.scale := by
    apply rank_convert_le (rank?_neg_of_rank standsAt) _ (by rwa [Int.natAbs_neg])
    · rw [Int.neg_mul]
      exact Int.neg_le_neg atLeast
    · rw [convert_neg]
      exact rank?_neg_of_rank convertedStands
  rw [Int.neg_mul] at mirrored
  exact Int.neg_le_neg_iff.mp mirrored

/-- Whether a number is on no other side of a small whole number than a whole number is. -/
def SidesWith (number : Binary format) (whole : Int) : Prop :=
  ∃ rank, number.rank? = some rank ∧
    ∀ bound : Int, bound.natAbs ≤ 2 →
      (whole ≤ bound → rank ≤ bound * 2 ^ format.scale) ∧
        (bound ≤ whole → bound * 2 ^ format.scale ≤ rank)

/-- What is nearest to a whole number sides with it. -/
theorem IsNearestTo.sidesWith
    {whole : Int}
    (nearest : number.IsNearestTo whole) :
    number.SidesWith whole := by
  obtain ⟨rank, standsAt⟩ := nearest.exists_rank
  refine ⟨rank, standsAt, ?_⟩
  intro bound small
  exact ⟨fun atMost => nearest.rank_le standsAt small (by exact_mod_cast atMost),
    fun atLeast => nearest.le_rank standsAt small (by exact_mod_cast atLeast)⟩

/-- A change of the format changes no sides. -/
theorem SidesWith.convert
    {whole : Int}
    (sides : number.SidesWith whole)
    (target : Format) :
    (number.convert target).SidesWith whole := by
  obtain ⟨rank, standsAt, between⟩ := sides
  obtain ⟨converted, convertedStands, _⟩ := exists_rank_convert target standsAt
  refine ⟨converted, convertedStands, ?_⟩
  intro bound small
  obtain ⟨below, above⟩ := between bound small
  exact ⟨fun atMost => rank_convert_le standsAt convertedStands small (below atMost),
    fun atLeast => le_rank_convert standsAt convertedStands small (above atLeast)⟩

/-- What sides with a whole number compares as it does with minus one, zero and one. -/
theorem SidesWith.compareInt?_eq
    {whole : Int}
    (sides : number.SidesWith whole)
    (small : bound.natAbs ≤ 1) :
    number.compareInt? bound = some (compare whole bound) := by
  obtain ⟨rank, standsAt, between⟩ := sides
  have unit : (0 : Int) < 2 ^ format.scale := by positivity
  rw [Binary.compareInt?_eq standsAt (format.small_le_precision (by omega))]
  congr 1
  rcases lt_trichotomy whole bound with below | same | above
  · -- Then the whole number is at most the one before the bound, and so is the other number.
    have atMost := (between (bound - 1) (by omega)).1 (by omega)
    rw [compare_lt_iff_lt.mpr below, compare_lt_iff_lt]
    linarith
  · have atMost := (between bound (by omega)).1 same.le
    have atLeast := (between bound (by omega)).2 same.ge
    rw [compare_eq_iff_eq.mpr same, compare_eq_iff_eq]
    exact le_antisymm atMost atLeast
  · have atLeast := (between (bound + 1) (by omega)).2 (by omega)
    rw [compare_gt_iff_gt.mpr above, compare_gt_iff_gt]
    linarith

end CheckedLiterals.Binary
