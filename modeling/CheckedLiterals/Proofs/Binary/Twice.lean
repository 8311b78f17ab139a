import CheckedLiterals.Proofs.Binary.Extended

namespace CheckedLiterals.Binary

/-!
# Rounding twice

A magnitude that is rounded to double width and from there to single width can end up
elsewhere than one that is rounded to single width at once.  The middle between two
neighbours of single width is a number of double width, so the first rounding never
crosses it, but it may hit it.  Then the second rounding is left with a tie that the
magnitude itself does not have, and may decide it for the side that is farther away.
Nothing else can go wrong.
-/

theorem dist_eq_iff
    {lower upper value : ℚ}
    (ordered : lower < upper) :
    |value - lower| = |value - upper| ↔ 2 * value = lower + upper := by
  constructor
  · intro same
    exact le_antisymm (le_add_of_nearer_lower ordered same.le)
      (add_le_of_nearer_upper ordered same.ge)
  · intro middle
    rw [abs_of_pos (by linarith), abs_of_neg (by linarith)]
    linarith

theorem dist_lt_iff
    {lower upper value : ℚ}
    (ordered : lower < upper) :
    |value - lower| < |value - upper| ↔ 2 * value < lower + upper := by
  constructor
  · intro nearer
    refine lt_of_le_of_ne (le_add_of_nearer_lower ordered nearer.le) ?_
    intro middle
    exact nearer.ne ((dist_eq_iff ordered).mpr middle)
  · intro below
    by_contra farther
    exact below.not_ge (add_le_of_nearer_upper ordered (not_lt.mp farther))

namespace Format

variable
  {format : Format}
  {exact once : ℚ}
  {taken direct : Nat}

/--
Whether a tie is decided for a grid point although the number that was rounded to the tie is
nearer to another one.  Past the limit all grid points are the same infinity.
-/
structure LosesTie (format : Format) (exact once : ℚ) (taken other : Nat) : Prop where
  nearest : format.IsNearest once taken
  onGrid : format.OnGrid other
  within : min taken other < format.limit
  asFar : |once - other| = |once - taken|
  nearer : |exact - other| < |exact - taken|

/-- Whether a number moves without crossing the middle between any two neighbours. -/
def KeepsMiddles (format : Format) (exact once : ℚ) : Prop :=
  ∀ low, format.OnGrid low →
    (2 * exact ≤ 2 * low + format.spacing low → 2 * once ≤ 2 * low + format.spacing low) ∧
      (2 * low + format.spacing low ≤ 2 * exact → 2 * low + format.spacing low ≤ 2 * once)

/-- If rounding once goes lower than rounding twice, there was a tie in between. -/
theorem IsNearest.tie_of_lt
    (takenNearest : format.IsNearest once taken)
    (directNearest : format.IsNearest exact direct)
    (keeps : format.KeepsMiddles exact once)
    (ordered : direct < taken) :
    2 * once = direct + taken := by
  have next := directNearest.onGrid.add_spacing
  have positive := format.spacing_pos direct
  have step := directNearest.onGrid.add_spacing_le takenNearest.onGrid ordered
  have below := directNearest.le_middle next (by omega)
  have kept := (keeps direct directNearest.onGrid).1 (by push_cast at below; linarith)
  have above := takenNearest.middle_le directNearest.onGrid ordered
  rcases Nat.lt_or_eq_of_le step with farther | adjacent
  · -- Rounding twice would have stopped at the grid point in between.
    have past := takenNearest.middle_le next farther
    have ordered : (direct : ℚ) < taken := by exact_mod_cast ordered
    push_cast at past
    linarith
  · rw [← adjacent] at above ⊢
    push_cast at above ⊢
    linarith

/-- If rounding once goes higher than rounding twice, there was a tie in between. -/
theorem IsNearest.tie_of_gt
    (takenNearest : format.IsNearest once taken)
    (directNearest : format.IsNearest exact direct)
    (keeps : format.KeepsMiddles exact once)
    (ordered : taken < direct) :
    2 * once = taken + direct := by
  have next := takenNearest.onGrid.add_spacing
  have positive := format.spacing_pos taken
  have step := takenNearest.onGrid.add_spacing_le directNearest.onGrid ordered
  have below := takenNearest.le_middle next (by omega)
  rcases Nat.lt_or_eq_of_le step with farther | adjacent
  · -- Then the middle above the grid point in between was crossed.
    have past := directNearest.middle_le next farther
    have further := next.add_spacing_le directNearest.onGrid farther
    have kept := (keeps _ next).2 (by
      have : ((taken + format.spacing taken + format.spacing (taken + format.spacing taken) : Nat) :
          ℚ) ≤ direct := Nat.cast_le.mpr further
      push_cast at past this ⊢
      linarith)
    have : (0 : ℚ) < format.spacing taken := Nat.cast_pos.mpr positive
    have : (0 : ℚ) < format.spacing (taken + format.spacing taken) :=
      Nat.cast_pos.mpr (format.spacing_pos _)
    push_cast at below kept
    linarith
  · have above := directNearest.middle_le takenNearest.onGrid ordered
    have kept := (keeps taken takenNearest.onGrid).2 (by
      rw [← adjacent] at above
      push_cast at above
      linarith)
    rw [← adjacent]
    push_cast at below ⊢
    linarith

/-- Rounding twice goes elsewhere than rounding once only by a tie that it decides wrongly. -/
theorem IsNearest.losesTie
    (takenNearest : format.IsNearest once taken)
    (directNearest : format.IsNearest exact direct)
    (keeps : format.KeepsMiddles exact once)
    (different : taken ≠ direct)
    (within : min taken direct < format.limit) :
    format.LosesTie exact once taken direct := by
  have notSame : exact ≠ once := by
    rintro rfl
    exact different (takenNearest.unique directNearest)
  rcases Nat.lt_or_gt_of_ne different with above | below
  · have middle := takenNearest.tie_of_gt directNearest keeps above
    have farther := directNearest.middle_le takenNearest.onGrid above
    have ordered : (taken : ℚ) < direct := Nat.cast_lt.mpr above
    refine ⟨takenNearest, directNearest.onGrid, within, ((dist_eq_iff ordered).mpr middle).symm, ?_⟩
    by_contra notNearer
    have atMost := le_add_of_nearer_lower ordered (le_of_not_gt notNearer)
    exact notSame (by linarith)
  · have middle := takenNearest.tie_of_lt directNearest keeps below
    have farther := directNearest.le_middle takenNearest.onGrid below
    have ordered : (direct : ℚ) < taken := Nat.cast_lt.mpr below
    refine ⟨takenNearest, directNearest.onGrid, within, (dist_eq_iff ordered).mpr middle, ?_⟩
    rw [dist_lt_iff ordered]
    exact lt_of_le_of_ne farther fun same => notSame (by linarith)

/-- Below the limit, what rounding once is nearer to is what rounding twice misses. -/
theorem LosesTie.min_ne
    {other : Nat}
    (lost : format.LosesTie exact once taken other)
    (directNearest : format.IsNearest exact direct) :
    min taken format.limit ≠ min direct format.limit := by
  intro same
  have different : taken ≠ direct := by
    rintro rfl
    exact lost.nearer.not_ge (directNearest.leastDistance other lost.onGrid)
  -- Both are past the limit, and the other grid point is not.
  have within := lost.within
  have otherBelow : other < taken := by omega
  have ordered : (other : ℚ) < taken := Nat.cast_lt.mpr otherBelow
  have middle := (dist_eq_iff ordered).mp lost.asFar
  have nearer := (dist_lt_iff ordered).mp lost.nearer
  have reached := directNearest.middle_le lost.onGrid (by omega)
  have directBelow : direct < taken := by
    have : (direct : ℚ) < taken := by linarith
    exact Nat.cast_lt.mp this
  have between := lost.nearest.middle_le directNearest.onGrid directBelow
  have : (direct : ℚ) ≤ other := by linarith
  have : direct ≤ other := Nat.cast_le.mp this
  omega

/-- Rounding twice goes where rounding once goes, unless it loses a tie. -/
theorem min_eq_iff_not_losesTie
    (takenNearest : format.IsNearest once taken)
    (directNearest : format.IsNearest exact direct)
    (keeps : format.KeepsMiddles exact once) :
    min taken format.limit = min direct format.limit ↔
      ¬∃ taken other, format.LosesTie exact once taken other := by
  constructor
  · rintro same ⟨taken', other, lost⟩
    have sameTaken := lost.nearest.unique takenNearest
    subst sameTaken
    exact lost.min_ne directNearest same
  · intro kept
    by_contra different
    refine kept ⟨taken, direct, takenNearest.losesTie directNearest keeps ?_ ?_⟩
    · rintro rfl
      exact different rfl
    · omega

/-- The middle between two neighbours of single width is a number of double width. -/
theorem OnGrid.middle
    {low : Nat}
    (onGrid : Format.OnGrid .binary32 low) :
    Format.OnGrid .binary64
      ((2 * low + Format.spacing .binary32 low) * 2 ^ (widening - 1)) := by
  have below := Format.div_spacing_lt .binary32 low
  have shape := Nat.div_mul_cancel onGrid
  rw [spacing_eq] at below shape ⊢
  generalize low / 2 ^ Format.excess .binary32 low = count at *
  generalize Format.excess .binary32 low = shift at *
  rw [← shape, ← Nat.mul_assoc, ← Nat.succ_mul, Nat.mul_assoc, ← Nat.pow_add]
  apply onGrid_shifted
  calc (2 * count).succ
        ≤ 2 ^ (Format.precision .binary32 + 1) := by
          rw [Nat.pow_succ]
          omega
    _ ≤ 2 ^ Format.precision .binary64 := Nat.pow_le_pow_right (by decide) (by decide)

/-- So what is rounded to double width does not cross it. -/
theorem keepsMiddles_of_isNearest
    {units : Nat}
    (nearest : Format.IsNearest .binary64 (exact * 2 ^ widening) units) :
    Format.KeepsMiddles .binary32 exact (units / 2 ^ widening) := by
  intro low onGrid
  have half : (0 : ℚ) < 2 ^ (widening - 1) := by positivity
  have split : (2 : ℚ) ^ widening = 2 ^ (widening - 1) * 2 := by
    rw [← pow_succ, show widening - 1 + 1 = widening from rfl]
  rw [split] at nearest ⊢
  constructor
  · intro below
    have kept := nearest.le_point onGrid.middle (by
      push_cast
      nlinarith)
    have : (units : ℚ) ≤ (2 * low + Format.spacing .binary32 low) * 2 ^ (widening - 1) := by
      exact_mod_cast kept
    rw [← mul_div_assoc, div_le_iff₀ (by positivity)]
    linarith
  · intro above
    have kept := nearest.point_le onGrid.middle (by
      push_cast
      nlinarith)
    have : (2 * low + Format.spacing .binary32 low) * 2 ^ (widening - 1) ≤ (units : ℚ) := by
      exact_mod_cast kept
    rw [← mul_div_assoc, le_div_iff₀ (by positivity)]
    linarith

end Format

variable {format : Format}

theorem signed_injective (negative : Bool) : Function.Injective (signed negative) := by
  intro units other same
  cases negative with
  | false => exact Int.ofNat_inj.mp same
  | true => exact Int.ofNat_inj.mp (Int.neg_inj.mp same)

/-- What rounds with one sign is the same number where it stands at the same place. -/
theorem IsRoundingOf.eq_of_rank
    {negative : Bool}
    {magnitude otherMagnitude : ℚ}
    {number other : Binary format}
    (rounded : number.IsRoundingOf negative magnitude)
    (otherRounded : other.IsRoundingOf negative otherMagnitude)
    (same : number.rank? = other.rank?) :
    number = other := by
  cases number with
  | nan => exact rounded.elim
  | infinite sign =>
      obtain ⟨rfl, _⟩ := rounded
      cases other with
      | nan => exact otherRounded.elim
      | infinite otherSign => rw [otherRounded.1]
      | finite otherSign units represents =>
          obtain ⟨rfl, _⟩ := otherRounded
          have atLimit := signed_injective _ (Option.some_injective _ same)
          exact absurd atLimit represents.2.ne'
  | finite sign units represents =>
      obtain ⟨rfl, _⟩ := rounded
      cases other with
      | nan => exact otherRounded.elim
      | infinite otherSign =>
          obtain ⟨rfl, _⟩ := otherRounded
          have atLimit := signed_injective _ (Option.some_injective _ same)
          exact absurd atLimit represents.2.ne
      | finite otherSign otherUnits otherRepresents =>
          obtain ⟨rfl, _⟩ := otherRounded
          have sameUnits := signed_injective _ (Option.some_injective _ same)
          subst sameUnits
          rfl

/-- Whether a number is a tie in single width that is decided against its magnitude. -/
def LosesTie (number : Binary64) (magnitude : ℚ) : Prop :=
  match number with
  | .finite _ units _ =>
      ∃ taken other,
        Format.LosesTie .binary32 (magnitude * 2 ^ Format.scale .binary32)
          (units / 2 ^ widening) taken other
  | _ => False

/-- Narrowing a rounded number gives what single width rounds to at once, unless it loses a tie. -/
theorem convert_eq_iff_not_losesTie
    {negative : Bool}
    {magnitude : ℚ}
    {number : Binary64}
    {single : Binary32}
    (rounded : number.IsRoundingOf negative magnitude)
    (finite : number.isFinite = true)
    (straight : single.IsRoundingOf negative magnitude) :
    number.convert .binary32 = single ↔ ¬number.LosesTie magnitude := by
  cases number with
  | nan => cases finite
  | infinite sign => cases finite
  | finite sign units represents =>
      obtain ⟨rfl, nearest⟩ := rounded
      have narrowed := isRoundingOf_convert .binary32 sign represents
      obtain ⟨taken, takenNearest, takenRank⟩ := narrowed.rank
      obtain ⟨direct, directNearest, directRank⟩ := straight.rank
      rw [scale_binary64, pow_add] at nearest takenNearest
      rw [div_mul_eq_mul_div, mul_comm (units : ℚ), mul_div_mul_left _ _ (by positivity)]
        at takenNearest
      rw [← mul_assoc] at nearest
      rw [LosesTie, ← Format.min_eq_iff_not_losesTie takenNearest directNearest
        (Format.keepsMiddles_of_isNearest nearest)]
      constructor
      · rintro rfl
        rw [takenRank, Option.some.injEq] at directRank
        exact signed_injective sign directRank
      · intro same
        apply narrowed.eq_of_rank straight
        rw [takenRank, directRank, same]

/-- A number of single width comes back from double width. -/
theorem convert_binary32_convert (single : Binary32) :
    (single.convert .binary64).convert .binary32 = single := by
  cases single with
  | nan => rfl
  | infinite negative => rfl
  | finite negative units represents =>
      rw [convert_widened]
      apply (isRoundingOf_convert .binary32 negative (represents_widened represents)).unique
      refine ⟨rfl, ?_⟩
      have own : ((units * 2 ^ widening : Nat) : ℚ) / 2 ^ Format.scale .binary64 *
          2 ^ Format.scale .binary32 = units := by
        rw [scale_binary64, pow_add]
        push_cast
        field_simp
      rw [own]
      exact (Format.represents_iff.mp represents).1.isNearest

theorem convert_binary64_injective :
    Function.Injective fun single : Binary32 => single.convert .binary64 :=
  Function.LeftInverse.injective convert_binary32_convert

end CheckedLiterals.Binary
