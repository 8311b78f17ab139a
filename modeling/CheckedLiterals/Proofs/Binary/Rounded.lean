import CheckedLiterals.Binary.Decimal
import CheckedLiterals.Proofs.Binary.Nearest
import Mathlib.Tactic.Positivity

namespace CheckedLiterals.Binary

/-!
# Correct rounding

A number is what a sign and a magnitude round to if its units are nearest to the
magnitude and its sign is the given one; where the nearest grid point is past
every finite number, it is infinite.  Quotients, decimals and numbers of another
format are all rounded in this sense, and a sign and a magnitude round to one
number only.
-/

/--
A quotient exceeds the whole number below it by a share of one.  Rounding goes to the
nearer one of the two whole numbers around it, and to the even one on a tie.
-/
theorem exists_share
    (numerator : Nat)
    {denominator : Nat}
    (positive : 0 < denominator) :
    ∃ share : ℚ,
      (numerator / denominator : ℚ) = (numerator / denominator : Nat) + share ∧
        0 ≤ share ∧
        share < 1 ∧
        (roundHalfEven numerator denominator = numerator / denominator ∧ 2 * share ≤ 1 ∨
          roundHalfEven numerator denominator = numerator / denominator + 1 ∧ 1 ≤ 2 * share) ∧
        (2 * share = 1 → Even (roundHalfEven numerator denominator)) := by
  have positiveCast : (0 : ℚ) < denominator := by positivity
  have below := Nat.mod_lt numerator positive
  refine ⟨(numerator % denominator : Nat) / denominator, ?_, by positivity, ?_, ?_, ?_⟩
  · have parts :
        (denominator * (numerator / denominator : Nat) + (numerator % denominator : Nat) : ℚ) =
          numerator := by
      exact_mod_cast Nat.div_add_mod numerator denominator
    rw [div_eq_iff positiveCast.ne', add_mul, div_mul_cancel₀ _ positiveCast.ne', ← parts]
    ring
  · rw [div_lt_one positiveCast]
    exact_mod_cast below
  · rw [← mul_div_assoc, div_le_one positiveCast, one_le_div positiveCast]
    norm_cast
    simp only [roundHalfEven]
    split
    · exact .inl ⟨rfl, by omega⟩
    · split
      · exact .inr ⟨rfl, by omega⟩
      · rcases Nat.mod_two_eq_zero_or_one (numerator / denominator) with even | odd
        · exact .inl ⟨by rw [even, Nat.add_zero], by omega⟩
        · exact .inr ⟨by rw [odd], by omega⟩
  · intro tie
    rw [← mul_div_assoc, div_eq_one_iff_eq positiveCast.ne'] at tie
    norm_cast at tie
    simp only [roundHalfEven, tie, lt_irrefl, ↓reduceIte]
    rw [Nat.even_iff]
    omega

namespace Format

variable {format : Format}

/-- The units that the rounding function computes are nearest to the quotient. -/
theorem isNearest_nearest
    (format : Format)
    (numerator : Nat)
    {denominator : Nat}
    (positive : 0 < denominator) :
    format.IsNearest (numerator / denominator) (format.nearest numerator denominator) := by
  -- Counted in steps of the spacing, the quotient is rounded to a whole number.
  obtain ⟨units, unitsShape⟩ : ∃ units, units = numerator / denominator := ⟨_, rfl⟩
  have spacingPositive := format.spacing_pos units
  have spacingCast : (0 : ℚ) < format.spacing units := Nat.cast_pos.mpr spacingPositive
  have steps : numerator / (denominator * format.spacing units) =
      units / format.spacing units := by
    rw [unitsShape, Nat.div_div_eq_div_mul]
  obtain ⟨share, shape, nonneg, below, neighbour, evenOnTie⟩ :=
    exists_share numerator (Nat.mul_pos positive spacingPositive)
  rw [steps] at shape neighbour
  -- The way from the lower neighbour to the quotient is the share of the spacing.
  have way : (numerator / denominator : ℚ) - format.gridFloor units =
      format.spacing units * share := by
    have := eq_sub_of_add_eq' shape.symm
    rw [this, gridFloor]
    push_cast
    field_simp
  rw [nearest, ← unitsShape]
  apply isNearest_of_neighbour units
  · nlinarith
  · nlinarith
  · rw [way]
    rcases neighbour with ⟨rounded, nearer⟩ | ⟨rounded, nearer⟩
    · exact .inl ⟨by rw [rounded, gridFloor], by nlinarith⟩
    · exact .inr ⟨by rw [rounded, gridFloor]; ring, by nlinarith⟩
  · intro tie
    have even := evenOnTie (by
      apply mul_left_cancel₀ spacingCast.ne'
      linarith)
    have counted := format.div_spacing_lt units
    have fills := format.fills_div_spacing units
    rw [spacing_eq] at even neighbour counted fills ⊢
    apply even_significand_shifted _ _ even
    · omega
    · exact fills.imp_right fun full => by omega

/-- The limit of the finite numbers is a grid point. -/
theorem onGrid_limit (format : Format) : format.OnGrid format.limit := by
  rw [limit_eq, ← Nat.one_mul (2 ^ format.reach)]
  exact onGrid_shifted Nat.one_le_two_pow _

/-- Every rational that is not negative has a nearest grid point. -/
theorem exists_isNearest
    (format : Format)
    {value : ℚ}
    (nonneg : 0 ≤ value) :
    ∃ units, format.IsNearest value units := by
  have nearest := format.isNearest_nearest value.num.toNat value.den_pos
  rw [← Int.cast_natCast value.num.toNat, Int.toNat_of_nonneg (Rat.num_nonneg.mpr nonneg),
    Rat.num_div_den] at nearest
  exact ⟨_, nearest⟩

/-- What is at most half a unit is rounded to zero. -/
theorem isNearest_zero
    {value : ℚ}
    (nonneg : 0 ≤ value)
    (small : 2 * value ≤ 1) :
    format.IsNearest value 0 := by
  have floor : format.gridFloor 0 = 0 := by rw [gridFloor, Nat.zero_div, Nat.zero_mul]
  have step : format.spacing 0 = 1 := by rw [spacing_eq, excess_zero, Nat.pow_zero]
  have even : Even (format.significand 0) := by
    rw [significand, Nat.zero_div]
    exact ⟨0, rfl⟩
  apply isNearest_of_neighbour 0
  · rw [floor, Nat.cast_zero]
    exact nonneg
  · rw [floor, step]
    push_cast
    linarith
  · refine .inl ⟨floor.symm, ?_⟩
    rw [floor, step]
    push_cast
    linarith
  · exact fun _ => even

end Format

variable {format : Format}

/--
Whether a number is what a sign and a magnitude round to, ties to even.  A magnitude whose
nearest grid point is past every finite number rounds to an infinity.
-/
def IsRoundingOf (negative : Bool) (magnitude : ℚ) : Binary format → Prop
  | .nan => False
  | .infinite sign =>
      sign = negative ∧
        ∃ units, format.limit ≤ units ∧ format.IsNearest (magnitude * 2 ^ format.scale) units
  | .finite sign units _ =>
      sign = negative ∧ format.IsNearest (magnitude * 2 ^ format.scale) units

/-- A sign and a magnitude round to one number only. -/
theorem IsRoundingOf.unique
    {negative : Bool}
    {magnitude : ℚ}
    {number other : Binary format}
    (first : number.IsRoundingOf negative magnitude)
    (second : other.IsRoundingOf negative magnitude) :
    number = other := by
  cases number with
  | nan => exact first.elim
  | infinite sign =>
      obtain ⟨rfl, units, past, nearest⟩ := first
      cases other with
      | nan => exact second.elim
      | infinite otherSign => rw [second.1]
      | finite otherSign otherUnits represents =>
          have same := nearest.unique second.2
          have within := represents.2
          omega
  | finite sign units represents =>
      obtain ⟨rfl, nearest⟩ := first
      cases other with
      | nan => exact second.elim
      | infinite otherSign =>
          obtain ⟨_, otherUnits, past, otherNearest⟩ := second
          have same := nearest.unique otherNearest
          have within := represents.2
          omega
      | finite otherSign otherUnits otherRepresents =>
          obtain ⟨rfl, otherNearest⟩ := second
          cases nearest.unique otherNearest
          rfl

/-- A quotient of units is rounded correctly. -/
theorem isRoundingOf_ofRatio
    (negative : Bool)
    {magnitude : ℚ}
    {numerator denominator : Nat}
    (positive : 0 < denominator)
    (shape : magnitude * 2 ^ format.scale = numerator / denominator) :
    (ofRatio format negative numerator denominator).IsRoundingOf negative magnitude := by
  have nearest := format.isNearest_nearest numerator positive
  rw [← shape] at nearest
  rw [ofRatio]
  split
  · exact ⟨rfl, nearest⟩
  · exact ⟨rfl, _, Nat.not_lt.mp ‹_›, nearest⟩

/-- Zero is rounded to zero. -/
theorem isRoundingOf_zero
    (negative : Bool)
    {magnitude : ℚ}
    (nonneg : 0 ≤ magnitude)
    (small : 2 * (magnitude * 2 ^ format.scale) ≤ 1) :
    (zero negative : Binary format).IsRoundingOf negative magnitude :=
  ⟨rfl, Format.isNearest_zero (by positivity) small⟩

/-- A number is rounded correctly to another format. -/
theorem isRoundingOf_convert
    (target : Format)
    (negative : Bool)
    {units : Nat}
    (represents : format.Represents units) :
    ((Binary.finite negative units represents).convert target).IsRoundingOf
      negative (units / 2 ^ format.scale) := by
  apply isRoundingOf_ofRatio
  · rw [Nat.one_shiftLeft]
    exact Nat.two_pow_pos _
  · rw [Nat.shiftLeft_eq, Nat.one_shiftLeft]
    push_cast
    ring

/-- A whole number is rounded correctly. -/
theorem isRoundingOf_ofInt
    (format : Format)
    (value : Int) :
    (ofInt format value).IsRoundingOf (decide (value < 0)) value.natAbs := by
  apply isRoundingOf_ofRatio _ Nat.one_pos
  rw [Nat.shiftLeft_eq]
  push_cast
  ring

/-- A whole number times a power of ten is rounded correctly. -/
theorem isRoundingOf_ofDecimal_ofNat
    (format : Format)
    (negative : Bool)
    {significand : Nat}
    (nonzero : significand ≠ 0)
    (up : Nat) :
    (ofDecimal format negative significand (.ofNat up)).IsRoundingOf negative
      (significand * 10 ^ up) := by
  have shape : (significand * 10 ^ up : ℚ) * 2 ^ format.scale =
      ((significand * powerOfTen up) <<< format.scale : Nat) / (1 : Nat) := by
    rw [Nat.shiftLeft_eq, powerOfTen, Nat.pow_eq]
    push_cast
    ring
  simp only [ofDecimal, nonzero, ↓reduceIte]
  split
  · case isTrue far =>
      have nearest := format.isNearest_nearest
        ((significand * powerOfTen up) <<< format.scale) Nat.one_pos
      refine ⟨rfl, _, ?_, shape ▸ nearest⟩
      apply format.onGrid_limit.isNearest.mono nearest
      rw [Nat.cast_one, div_one, Nat.cast_le, Format.limit_eq, Nat.shiftLeft_eq]
      calc 2 ^ format.reach
            ≤ 2 ^ up := Nat.pow_le_pow_right (by decide) far
        _ ≤ powerOfTen up := Nat.pow_le_pow_left (by decide) up
        _ ≤ significand * powerOfTen up :=
            Nat.le_mul_of_pos_left _ (Nat.pos_of_ne_zero nonzero)
        _ ≤ significand * powerOfTen up * 2 ^ format.scale :=
            Nat.le_mul_of_pos_right _ (Nat.two_pow_pos _)
  · exact isRoundingOf_ofRatio negative Nat.one_pos shape

/-- A whole number divided by a power of ten is rounded correctly. -/
theorem isRoundingOf_ofDecimal_negSucc
    (format : Format)
    (negative : Bool)
    {significand : Nat}
    (nonzero : significand ≠ 0)
    (less : Nat) :
    (ofDecimal format negative significand (.negSucc less)).IsRoundingOf negative
      (significand / 10 ^ (less + 1)) := by
  have powerPositive : 0 < powerOfTen (less + 1) := Nat.pow_pos (by decide)
  have shape : (significand / 10 ^ (less + 1) : ℚ) * 2 ^ format.scale =
      (significand <<< format.scale : Nat) / (powerOfTen (less + 1) : Nat) := by
    rw [Nat.shiftLeft_eq, powerOfTen, Nat.pow_eq]
    push_cast
    ring
  simp only [ofDecimal, nonzero, ↓reduceIte]
  split
  · case isTrue far =>
      apply isRoundingOf_zero negative (by positivity)
      rw [shape, ← mul_div_assoc, div_le_one (by positivity), Nat.shiftLeft_eq]
      norm_cast
      have logBound := (Nat.log2_lt nonzero).mp (Nat.lt_succ_self significand.log2)
      calc 2 * (significand * 2 ^ format.scale)
            ≤ 2 * (2 ^ (significand.log2 + 1) * 2 ^ format.scale) :=
            Nat.mul_le_mul_left 2 (Nat.mul_le_mul_right _ logBound.le)
        _ = 2 ^ (significand.log2 + format.scale + 2) := by ring
        _ ≤ 2 ^ (3 * (less + 1)) := Nat.pow_le_pow_right (by decide) far
        _ = 8 ^ (less + 1) := Nat.pow_mul 2 3 (less + 1)
        _ ≤ powerOfTen (less + 1) := Nat.pow_le_pow_left (by decide) (less + 1)
  · exact isRoundingOf_ofRatio negative powerPositive shape

/-- A decimal is rounded correctly, however long it is and whatever its exponent is. -/
theorem isRoundingOf_ofDecimal
    (format : Format)
    (negative : Bool)
    (significand : Nat)
    (exponent : Int) :
    (ofDecimal format negative significand exponent).IsRoundingOf negative
      (significand * 10 ^ exponent) := by
  rcases Nat.eq_zero_or_pos significand with rfl | positive
  · rw [show ofDecimal format negative 0 exponent = zero negative by cases exponent <;> rfl]
    apply isRoundingOf_zero negative <;> simp
  · have nonzero := positive.ne'
    cases exponent with
    | ofNat up =>
        rw [Int.ofNat_eq_natCast, zpow_natCast]
        exact isRoundingOf_ofDecimal_ofNat format negative nonzero up
    | negSucc less =>
        rw [zpow_negSucc, ← div_eq_mul_inv]
        exact isRoundingOf_ofDecimal_negSucc format negative nonzero less

end CheckedLiterals.Binary
