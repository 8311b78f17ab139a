import CheckedLiterals.Numeral
import Mathlib.Algebra.Order.Field.Rat
import Mathlib.Tactic.FieldSimp
import Mathlib.Tactic.Positivity
import Mathlib.Tactic.Ring

namespace CheckedLiterals.Numeral

/-!
# The grammar of numerals

The written forms of whole numbers and of decimals, each with the exact value that
it denotes.  The readers accept just these forms and give just these values, for
any number of digits and any exponent.
-/

/-- Whether a text holds nothing but decimal digits; it may be empty. -/
def AllDigits (text : List Char) : Prop :=
  ∀ c ∈ text, c.isDigit = true

/-- An optional sign, and whether it is a minus. -/
inductive IsSign : List Char → Bool → Prop where
  | absent : IsSign [] false
  | plus : IsSign ['+'] false
  | minus : IsSign ['-'] true

/-- A whole number: an optional sign and at least one digit. -/
inductive SpellsInteger : List Char → Int → Prop where
  | digits
      {sign digits : List Char}
      {negative : Bool} :
      IsSign sign negative →
        AllDigits digits →
        digits ≠ [] →
        SpellsInteger (sign ++ digits)
          (if negative then -(digitsValue digits : Int) else (digitsValue digits : Int))

/-- Digits with at most one point, of which there is at least one: those before it and behind it. -/
inductive SpellsMantissa : List Char → List Char → List Char → Prop where
  | noPoint
      {whole : List Char} :
      AllDigits whole →
        whole ≠ [] →
        SpellsMantissa whole whole []
  | digitsThenPoint
      {whole fraction : List Char} :
      AllDigits whole →
        whole ≠ [] →
        AllDigits fraction →
        SpellsMantissa (whole ++ '.' :: fraction) whole fraction
  | pointThenDigits
      {fraction : List Char} :
      AllDigits fraction →
        fraction ≠ [] →
        SpellsMantissa ('.' :: fraction) [] fraction

/-- An optional power of ten: a letter and a whole number. -/
inductive SpellsExponent : List Char → Int → Prop where
  | absent : SpellsExponent [] 0
  | marked
      {mark : Char}
      {text : List Char}
      {power : Int} :
      mark = 'e' ∨ mark = 'E' →
        SpellsInteger text power →
        SpellsExponent (mark :: text) power

/-- A decimal: whether a minus stands in front of it, and the exact magnitude. -/
inductive SpellsDecimal : List Char → Bool → ℚ → Prop where
  | parts
      {sign mantissa whole fraction tail : List Char}
      {negative : Bool}
      {power : Int} :
      IsSign sign negative →
        SpellsMantissa mantissa whole fraction →
        SpellsExponent tail power →
        SpellsDecimal (sign ++ (mantissa ++ tail)) negative
          ((digitsValue whole + digitsValue fraction / 10 ^ fraction.length) * 10 ^ power)

/-- A decimal with its exact value, sign included. -/
def SpellsValue (text : List Char) (value : ℚ) : Prop :=
  ∃ negative magnitude,
    SpellsDecimal text negative magnitude ∧
      value = (if negative then -magnitude else magnitude)

/-- The exact magnitude of a numeral. -/
def magnitude (numeral : Numeral) : ℚ :=
  numeral.significand * 10 ^ numeral.exponent

/-- Digits in front count for as many powers of ten as digits follow. -/
theorem digitsValue_append (front back : List Char) :
    digitsValue (front ++ back) = digitsValue front * 10 ^ back.length + digitsValue back := by
  rw [digitsValue, Nat.ofDigitChars_append, Nat.ofDigitChars_eq_ofDigitChars_zero, Nat.mul_comm]
  rfl

/-- A nonempty run of digits is what the test says it is. -/
theorem isDigits_iff {text : List Char} :
    isDigits text = true ↔ AllDigits text ∧ text ≠ [] := by
  simp [isDigits, AllDigits, and_comm]

/-- What is split off a text is a sign. -/
theorem isSign_splitSign (text : List Char) :
    ∃ sign, IsSign sign (splitSign text).1 ∧ text = sign ++ (splitSign text).2 := by
  unfold splitSign
  split
  · exact ⟨_, .minus, rfl⟩
  · exact ⟨_, .plus, rfl⟩
  · exact ⟨_, .absent, rfl⟩

/-- Whether a text begins with a digit or a point, and so with no sign. -/
def StartsNumber : List Char → Prop
  | c :: _ => c.isDigit = true ∨ c = '.'
  | [] => False

/-- A sign in front of what is no sign is split off. -/
theorem IsSign.splitSign_append
    {sign rest : List Char}
    {negative : Bool}
    (isSign : IsSign sign negative)
    (starts : StartsNumber rest) :
    splitSign (sign ++ rest) = (negative, rest) := by
  cases isSign with
  | plus => rfl
  | minus => rfl
  | absent =>
      cases rest with
      | nil => exact starts.elim
      | cons c rest =>
          have noMinus : c ≠ '-' := by
            rintro rfl
            simp [StartsNumber] at starts
          have noPlus : c ≠ '+' := by
            rintro rfl
            simp [StartsNumber] at starts
          rw [List.nil_append, splitSign] <;> simp_all

/-- A nonempty run of digits begins a number, whatever follows it. -/
theorem AllDigits.startsNumber
    {digits : List Char}
    (allDigits : AllDigits digits)
    (nonempty : digits ≠ [])
    (rest : List Char) :
    StartsNumber (digits ++ rest) := by
  cases digits with
  | nil => exact absurd rfl nonempty
  | cons c others => exact .inl (allDigits c (by simp))

/-- The reader of whole numbers accepts their written forms and gives their values. -/
theorem integer?_eq_some_iff {text : List Char} {value : Int} :
    integer? text = some value ↔ SpellsInteger text value := by
  constructor
  · intro accepted
    obtain ⟨sign, isSign, shape⟩ := isSign_splitSign text
    simp only [integer?] at accepted
    split at accepted
    · case isTrue digits =>
        obtain ⟨allDigits, nonempty⟩ := isDigits_iff.mp digits
        rw [Option.some.injEq] at accepted
        rw [shape, ← accepted]
        exact .digits isSign allDigits nonempty
    · cases accepted
  · rintro ⟨isSign, allDigits, nonempty⟩
    have starts := allDigits.startsNumber nonempty []
    rw [List.append_nil] at starts
    rw [integer?, isSign.splitSign_append starts]
    simp only [isDigits_iff.mpr ⟨allDigits, nonempty⟩, ↓reduceIte]

/-- The reader of powers of ten accepts their written forms and gives their values. -/
theorem exponent?_eq_some_iff {text : List Char} {power : Int} :
    exponent? text = some power ↔ SpellsExponent text power := by
  constructor
  · intro accepted
    cases text with
    | nil =>
        cases accepted
        exact .absent
    | cons mark rest =>
        simp only [exponent?, Bool.or_eq_true, beq_iff_eq] at accepted
        split at accepted
        · exact .marked ‹_› (integer?_eq_some_iff.mp accepted)
        · cases accepted
  · intro spelled
    cases spelled with
    | absent => rfl
    | marked isMark spellsInteger =>
        simp only [exponent?, Bool.or_eq_true, beq_iff_eq, isMark, ↓reduceIte]
        exact integer?_eq_some_iff.mpr spellsInteger

/-- Behind digits that a word without digits follows, nothing more is taken. -/
theorem AllDigits.takeWhile_append
    {digits rest : List Char}
    (allDigits : AllDigits digits)
    (stops : rest.head?.all fun c => !c.isDigit) :
    (digits ++ rest).takeWhile Char.isDigit = digits ∧
      (digits ++ rest).dropWhile Char.isDigit = rest := by
  rw [List.takeWhile_append_of_pos allDigits, List.dropWhile_append_of_pos allDigits]
  cases rest with
  | nil => simp
  | cons c others =>
      have notDigit : c.isDigit = false := by simpa using stops
      simp [notDigit]

/-- A power of ten begins with no digit and no point. -/
theorem SpellsExponent.stops
    {tail : List Char}
    {power : Int}
    (spelled : SpellsExponent tail power) :
    tail.head?.all (fun c => !c.isDigit) = true ∧ splitFraction tail = ([], tail) := by
  cases spelled with
  | absent => exact ⟨rfl, rfl⟩
  | marked isMark _ => rcases isMark with rfl | rfl <;> exact ⟨rfl, rfl⟩

/-- The digits before and behind the point are found, whatever power of ten follows. -/
theorem SpellsMantissa.split_append
    {mantissa whole fraction tail : List Char}
    {power : Int}
    (spelled : SpellsMantissa mantissa whole fraction)
    (exponent : SpellsExponent tail power) :
    StartsNumber (mantissa ++ tail) ∧
      (mantissa ++ tail).takeWhile Char.isDigit = whole ∧
      splitFraction ((mantissa ++ tail).dropWhile Char.isDigit) = (fraction, tail) ∧
      (whole ++ fraction).isEmpty = false := by
  obtain ⟨stops, noPoint⟩ := exponent.stops
  cases spelled with
  | noPoint allDigits nonempty =>
      obtain ⟨taken, dropped⟩ := allDigits.takeWhile_append stops
      rw [taken, dropped, noPoint]
      exact ⟨allDigits.startsNumber nonempty tail, rfl, rfl, by simp [nonempty]⟩
  | digitsThenPoint allWhole nonempty allFraction =>
      obtain ⟨fractionTaken, fractionDropped⟩ := allFraction.takeWhile_append stops
      rw [List.append_assoc, List.cons_append]
      have pointStops : ('.' :: (fraction ++ tail)).head?.all (fun c => !c.isDigit) = true := rfl
      obtain ⟨taken, dropped⟩ := allWhole.takeWhile_append pointStops
      rw [taken, dropped, splitFraction, fractionTaken, fractionDropped]
      exact ⟨allWhole.startsNumber nonempty _, rfl, rfl, by simp [nonempty]⟩
  | pointThenDigits allFraction nonempty =>
      obtain ⟨fractionTaken, fractionDropped⟩ := allFraction.takeWhile_append stops
      refine ⟨.inr rfl, rfl, ?_, by simp [nonempty]⟩
      change (((fraction ++ tail).takeWhile Char.isDigit, (fraction ++ tail).dropWhile Char.isDigit)) = _
      rw [fractionTaken, fractionDropped]

/-- What is read up to the power of ten is digits with at most one point. -/
theorem spellsMantissa_split
    {unsigned fraction tail : List Char}
    (split : splitFraction (unsigned.dropWhile Char.isDigit) = (fraction, tail))
    (nonempty : (unsigned.takeWhile Char.isDigit ++ fraction).isEmpty = false) :
    ∃ mantissa,
      SpellsMantissa mantissa (unsigned.takeWhile Char.isDigit) fraction ∧
        unsigned = mantissa ++ tail := by
  have allTaken : ∀ text : List Char, AllDigits (text.takeWhile Char.isDigit) := fun text c member =>
    List.all_eq_true.mp List.all_takeWhile c member
  have parts := List.takeWhile_append_dropWhile (p := Char.isDigit) (l := unsigned)
  generalize unsigned.dropWhile Char.isDigit = behind at split parts
  have allWhole := allTaken unsigned
  generalize unsigned.takeWhile Char.isDigit = whole at *
  unfold splitFraction at split
  split at split
  · case h_1 rest =>
      cases split
      have fractionParts := List.takeWhile_append_dropWhile (p := Char.isDigit) (l := rest)
      have allFraction := allTaken rest
      by_cases wholeEmpty : whole = []
      · subst wholeEmpty
        refine ⟨_, .pointThenDigits allFraction (by simpa using nonempty), ?_⟩
        rw [← parts, List.nil_append, List.cons_append, fractionParts]
      · refine ⟨_, .digitsThenPoint allWhole wholeEmpty allFraction, ?_⟩
        rw [← parts, List.append_assoc, List.cons_append, fractionParts]
  · cases split
    exact ⟨whole, .noPoint allWhole (by simpa using nonempty), parts.symm⟩

/-- Digits behind the point count as tenths, hundredths and so on. -/
theorem magnitude_of_parts
    (negative : Bool)
    (whole fraction : List Char)
    (power : Int) :
    magnitude
        { negative := negative
          significand := digitsValue (whole ++ fraction)
          exponent := power - fraction.length } =
      (digitsValue whole + digitsValue fraction / 10 ^ fraction.length) * 10 ^ power := by
  rw [magnitude, digitsValue_append, zpow_sub₀ (by norm_num), zpow_natCast]
  push_cast
  field_simp

/-- The reader of decimals accepts their written forms and gives their signs and magnitudes. -/
theorem parse?_eq_some_iff
    {text : List Char}
    {negative : Bool}
    {value : ℚ} :
    (∃ numeral, parse? text = some numeral ∧
        numeral.negative = negative ∧ numeral.magnitude = value) ↔
      SpellsDecimal text negative value := by
  constructor
  · rintro ⟨numeral, accepted, rfl, rfl⟩
    obtain ⟨sign, isSign, shape⟩ := isSign_splitSign text
    rcases signSplit : splitSign text with ⟨negative, unsigned⟩
    rcases split : splitFraction (unsigned.dropWhile Char.isDigit) with ⟨fraction, tail⟩
    rw [signSplit] at isSign shape
    simp only [parse?, signSplit, split] at accepted
    split at accepted
    · cases accepted
    · case isFalse nonempty =>
        obtain ⟨power, powerRead, rfl⟩ := Option.map_eq_some_iff.mp accepted
        obtain ⟨mantissa, spelled, parts⟩ := spellsMantissa_split split (by simpa using nonempty)
        have written : text = sign ++ (mantissa ++ tail) := by rw [← parts, shape]
        rw [magnitude_of_parts, written]
        exact .parts isSign spelled (exponent?_eq_some_iff.mp powerRead)
  · intro spelled
    cases spelled with
    | @parts sign mantissa whole fraction tail negative power isSign mantissaSpelled powerSpelled =>
        obtain ⟨starts, taken, split, nonempty⟩ := mantissaSpelled.split_append powerSpelled
        refine ⟨_, ?_, rfl, magnitude_of_parts negative whole fraction power⟩
        simp only [parse?, isSign.splitSign_append starts, taken, split, nonempty,
          exponent?_eq_some_iff.mpr powerSpelled]
        rfl

theorem SpellsDecimal.unique
    {text : List Char}
    {negative otherNegative : Bool}
    {magnitude otherMagnitude : ℚ}
    (spelled : SpellsDecimal text negative magnitude)
    (otherSpelled : SpellsDecimal text otherNegative otherMagnitude) :
    negative = otherNegative ∧ magnitude = otherMagnitude := by
  obtain ⟨numeral, parsed, rfl, rfl⟩ := parse?_eq_some_iff.mpr spelled
  obtain ⟨other, otherParsed, rfl, rfl⟩ := parse?_eq_some_iff.mpr otherSpelled
  rw [parsed, Option.some.injEq] at otherParsed
  rw [otherParsed]
  exact ⟨rfl, rfl⟩

/-- A text spells one value at most. -/
theorem SpellsValue.unique
    {text : List Char}
    {value other : ℚ}
    (spelled : SpellsValue text value)
    (otherSpelled : SpellsValue text other) :
    value = other := by
  obtain ⟨negative, magnitude, decimal, rfl⟩ := spelled
  obtain ⟨otherNegative, otherMagnitude, otherDecimal, rfl⟩ := otherSpelled
  obtain ⟨rfl, rfl⟩ := decimal.unique otherDecimal
  rfl

theorem SpellsDecimal.magnitude_nonneg
    {text : List Char}
    {negative : Bool}
    {magnitude : ℚ}
    (spelled : SpellsDecimal text negative magnitude) :
    0 ≤ magnitude := by
  cases spelled
  exact mul_nonneg (by positivity) (zpow_nonneg (by norm_num) _)

/-- Whole numbers are decimals with the same value. -/
theorem SpellsInteger.spellsValue
    {text : List Char}
    {value : Int}
    (spelled : SpellsInteger text value) :
    SpellsValue text value := by
  cases spelled with
  | @digits sign digits negative isSign allDigits nonempty =>
      have whole := SpellsDecimal.parts isSign (.noPoint allDigits nonempty) .absent
      rw [List.append_nil] at whole
      refine ⟨_, _, whole, ?_⟩
      cases negative <;> simp [digitsValue]

end CheckedLiterals.Numeral
