import CheckedLiterals.Proofs.Binary.Extended
import Mathlib.Order.Compare

namespace CheckedLiterals.Binary

/-!
# Changing the format and back

A change of the format never reverses an order, and it keeps the sign.  What both formats
have is not rounded at all, so it comes back from the other format as it was.  Narrowing to
single width and back is such a double change, and what it leaves as it is are just the
numbers of single width.
-/

variable {format target : Format}

/-- Whether a number is at most another one; what is not a number stands in no order. -/
def IsAtMost (left right : Binary format) : Prop :=
  left.compare? right = some .lt ∨ left.compare? right = some .eq

/-- A number of double width as it is in single width, written back to double width. -/
def narrowed (number : Binary64) : Binary64 :=
  (number.convert .binary32).convert .binary64

/-- Numbers are in the order in which they stand on the line. -/
theorem isAtMost_iff
    {left right : Binary format} :
    left.IsAtMost right ↔
      ∃ low high, left.rank? = some low ∧ right.rank? = some high ∧ low ≤ high := by
  cases leftStands : left.rank? with
  | none => simp [IsAtMost, compare?, leftStands]
  | some low =>
      cases rightStands : right.rank? with
      | none => simp [IsAtMost, compare?, leftStands, rightStands]
      | some high =>
          simp [IsAtMost, compare?, leftStands, rightStands, compare_lt_iff_lt, le_iff_lt_or_eq]

theorem natAbs_signed (negative : Bool) (units : Nat) : (signed negative units).natAbs = units := by
  cases negative <;> simp [signed]

section Stands

variable
  {number : Binary format}
  {rank : Int}
  (standsAt : number.rank? = some rank)

include standsAt

/-- No number stands past the infinities. -/
theorem natAbs_rank_le : rank.natAbs ≤ format.limit := by
  cases number with
  | nan => cases standsAt
  | infinite negative =>
      cases standsAt
      exact (natAbs_signed negative _).le
  | finite negative units represents =>
      cases standsAt
      exact (natAbs_signed negative units).le.trans represents.2.le

/-- What stands at the limit is the infinity there. -/
theorem eq_infinite_of_limit_le
    (atLimit : (format.limit : Int) ≤ rank) :
    number = .infinite false := by
  cases number with
  | nan => cases standsAt
  | infinite negative =>
      cases standsAt
      cases negative with
      | true =>
          have positive := format.limit_pos
          simp only [signed, ↓reduceIte] at atLimit
          omega
      | false => rfl
  | finite negative units represents =>
      cases standsAt
      have magnitude := natAbs_signed negative units
      have within := represents.2
      omega

/-- The sign tells on which side of zero a number stands, if it does not stand there. -/
theorem rank_sign : if number.isNegative then rank ≤ 0 else 0 ≤ rank := by
  cases number with
  | nan => cases standsAt
  | infinite negative =>
      cases standsAt
      cases negative <;> simp [isNegative, signed]
  | finite negative units represents =>
      cases standsAt
      cases negative <;> simp [isNegative, signed]

end Stands

/-- A change of the format never reverses an order. -/
theorem rank_convert_mono
    {left right : Binary format}
    {leftRank rightRank low high : Int}
    (leftStands : left.rank? = some leftRank)
    (rightStands : right.rank? = some rightRank)
    (lowStands : (left.convert target).rank? = some low)
    (highStands : (right.convert target).rank? = some high)
    (ordered : leftRank ≤ rightRank) :
    low ≤ high := by
  have lowBound := natAbs_rank_le lowStands
  have highBound := natAbs_rank_le highStands
  cases left with
  | nan => cases leftStands
  | infinite negative =>
      cases leftStands
      cases lowStands
      cases negative with
      | true =>
          simp only [signed, ↓reduceIte]
          omega
      | false =>
          -- Nothing but the infinity itself is past it.
          obtain rfl := eq_infinite_of_limit_le rightStands ordered
          cases highStands
          exact le_rfl
  | finite negative units represents =>
      cases right with
      | nan => cases rightStands
      | infinite sign =>
          cases rightStands
          cases highStands
          cases sign with
          | true =>
              have isInfinite := eq_infinite_of_limit_le (rank?_neg_of_rank leftStands)
                (Int.le_neg_of_le_neg ordered)
              cases isInfinite
          | false =>
              simp only [signed, Bool.false_eq_true, ↓reduceIte]
              omega
      | finite sign otherUnits otherRepresents =>
          cases leftStands
          cases rightStands
          apply (isNearestTo_convert target negative represents).rank_mono
            (isNearestTo_convert target sign otherRepresents) lowStands highStands
          have : (signed negative units : ℚ) ≤ signed sign otherUnits := by exact_mod_cast ordered
          gcongr

/-- Numbers that are in order stay so in any other format. -/
theorem IsAtMost.convert
    {left right : Binary format}
    (ordered : left.IsAtMost right)
    (target : Format) :
    (left.convert target).IsAtMost (right.convert target) := by
  obtain ⟨_, _, leftStands, rightStands, atMost⟩ := isAtMost_iff.mp ordered
  obtain ⟨low, lowStands, _⟩ := exists_rank_convert target leftStands
  obtain ⟨high, highStands, _⟩ := exists_rank_convert target rightStands
  exact isAtMost_iff.mpr ⟨low, high, lowStands, highStands,
    rank_convert_mono leftStands rightStands lowStands highStands atMost⟩

/-- A change of the format keeps the sign, also where it comes to zero or to an infinity. -/
theorem isNegative_convert
    (target : Format)
    (number : Binary format) :
    (number.convert target).isNegative = number.isNegative := by
  cases number with
  | nan => rfl
  | infinite negative => rfl
  | finite negative units represents =>
      rw [convert, ofRatio]
      split <;> rfl

/-- What the other format has too comes back from there as it was, with its sign. -/
theorem convert_convert_eq_self
    {number : Binary format}
    {other : Binary target}
    (same : other.extended? = number.extended?) :
    (number.convert target).convert format = number := by
  cases number with
  | nan => rfl
  | infinite negative => rfl
  | finite negative units represents =>
      cases other with
      | nan => cases same
      | infinite sign => cases sign <;> simp [extended?] at same
      | finite sign converted convertedRepresents =>
          rw [extended?, extended?, Option.some.injEq, EReal.coe_eq_coe_iff,
            div_eq_div_iff (by positivity) (by positivity)] at same
          have scaled : (signed sign converted * 2 ^ format.scale : Int) =
              signed negative units * 2 ^ target.scale := by exact_mod_cast same
          have magnitudes : converted * 2 ^ format.scale = units * 2 ^ target.scale := by
            have := congrArg Int.natAbs scaled
            rwa [Int.natAbs_mul, Int.natAbs_mul, natAbs_signed, natAbs_signed, Int.natAbs_pow,
              Int.natAbs_pow] at this
          have exact : (converted * 2 ^ format.scale : ℚ) = units * 2 ^ target.scale := by
            exact_mod_cast magnitudes
          rw [convert_exact negative represents convertedRepresents exact,
            convert_exact negative convertedRepresents represents exact.symm]

theorem IsAtMost.narrowed
    {left right : Binary64}
    (ordered : left.IsAtMost right) :
    left.narrowed.IsAtMost right.narrowed :=
  (ordered.convert .binary32).convert .binary64

theorem narrowed_neg (number : Binary64) : number.neg.narrowed = number.narrowed.neg := by
  rw [narrowed, convert_neg, convert_neg, narrowed]

theorem isNegative_narrowed (number : Binary64) :
    number.narrowed.isNegative = number.isNegative := by
  rw [narrowed, isNegative_convert, isNegative_convert]

/-- Narrowing changes nothing just where single width has the exact value. -/
theorem narrowed_eq_self_iff
    {number : Binary64} :
    number.narrowed = number ↔ ∃ single : Binary32, single.extended? = number.extended? := by
  constructor
  · intro kept
    refine ⟨number.convert .binary32, ?_⟩
    rw [← extended?_widened]
    exact congrArg extended? kept
  · rintro ⟨_, same⟩
    exact convert_convert_eq_self same

/-- What was narrowed is a number of single width, so narrowing it again changes nothing. -/
theorem narrowed_narrowed (number : Binary64) : number.narrowed.narrowed = number.narrowed :=
  narrowed_eq_self_iff.mpr ⟨number.convert .binary32, (extended?_widened _).symm⟩

end CheckedLiterals.Binary
