import CheckedLiterals.Check
import CheckedLiterals.Proofs.Binary.Rounded
import CheckedLiterals.Proofs.LiteralNumber.Body

namespace CheckedLiterals.LiteralNumber

/-!
# Which texts are numbers, and which numbers they are

A text whose body is a whole number within 64 bits is that number.  A text whose
body is any other decimal is what the decimal rounds to in double width, if that
is finite.  No other text is a number.
-/

open Numeral (AllDigits IsSign SpellsDecimal SpellsExponent SpellsInteger SpellsMantissa)

/-- Whether a character can stand in a decimal. -/
def isDecimalCharacter (c : Char) : Bool :=
  c.isDigit || c == '.' || c == 'e' || c == 'E' || c == '+' || c == '-'

theorem endsNumeric_append
    (front : List Char)
    {back : List Char}
    (nonempty : back ≠ []) :
    endsNumeric (front ++ back) = endsNumeric back := by
  rw [endsNumeric, endsNumeric, List.getLast?_append_of_ne_nil front nonempty]

theorem endsNumeric_of_allDigits
    {digits : List Char}
    (allDigits : AllDigits digits)
    (nonempty : digits ≠ []) :
    endsNumeric digits = true := by
  have last := allDigits _ (List.getLast_mem nonempty)
  rw [endsNumeric, List.getLast?_eq_some_getLast nonempty]
  simp [last]

theorem endsNumeric_of_spellsInteger
    {text : List Char}
    {value : Int}
    (spelled : SpellsInteger text value) :
    endsNumeric text = true := by
  cases spelled with
  | digits _ allDigits nonempty =>
      rw [endsNumeric_append _ nonempty]
      exact endsNumeric_of_allDigits allDigits nonempty

theorem endsNumeric_of_spellsMantissa
    {text whole fraction : List Char}
    (spelled : SpellsMantissa text whole fraction) :
    text ≠ [] ∧ endsNumeric text = true := by
  cases spelled with
  | noPoint allDigits nonempty =>
      exact ⟨nonempty, endsNumeric_of_allDigits allDigits nonempty⟩
  | digitsThenPoint _ _ allFraction =>
      refine ⟨by simp, ?_⟩
      rw [endsNumeric_append _ (by simp)]
      by_cases empty : fraction = []
      · subst empty
        rfl
      · rw [← List.singleton_append, endsNumeric_append _ empty]
        exact endsNumeric_of_allDigits allFraction empty
  | pointThenDigits allFraction nonempty =>
      refine ⟨by simp, ?_⟩
      rw [← List.singleton_append, endsNumeric_append _ nonempty]
      exact endsNumeric_of_allDigits allFraction nonempty

/-- Every decimal ends in a digit or a point, so the filter in front of the readers loses none. -/
theorem endsNumeric_of_spellsDecimal
    {text : List Char}
    {negative : Bool}
    {magnitude : ℚ}
    (spelled : SpellsDecimal text negative magnitude) :
    endsNumeric text = true := by
  cases spelled with
  | parts _ mantissaSpelled exponentSpelled =>
      obtain ⟨nonempty, ends⟩ := endsNumeric_of_spellsMantissa mantissaSpelled
      rw [endsNumeric_append _ (by simp [nonempty])]
      cases exponentSpelled with
      | absent => rwa [List.append_nil]
      | @marked mark rest _ _ integerSpelled =>
          have restEnds := endsNumeric_of_spellsInteger integerSpelled
          have restNonempty : rest ≠ [] := by
            rintro rfl
            cases restEnds
          rw [endsNumeric_append _ (by simp), ← List.singleton_append,
            endsNumeric_append _ restNonempty]
          exact restEnds

theorem fits_iff {value : Int} :
    fits value = true ↔ ∃ number : Int64, number.toInt = value := by
  rw [fits, Bool.and_eq_true, decide_eq_true_eq, decide_eq_true_eq]
  constructor
  · rintro ⟨lower, upper⟩
    exact ⟨Int64.ofIntLE value lower upper, Int64.toInt_ofIntLE⟩
  · rintro ⟨number, rfl⟩
    exact ⟨number.minValue_le_toInt, number.toInt_le⟩

theorem filter_fits_eq_none_iff {text : List Char} :
    (Numeral.integer? text).filter fits = none ↔
      ∀ number : Int64, ¬SpellsInteger text number.toInt := by
  rw [Option.filter_eq_none_iff]
  constructor
  · intro none number spelled
    exact none _ (Numeral.integer?_eq_some_iff.mpr spelled) (fits_iff.mpr ⟨number, rfl⟩)
  · intro none value read fit
    obtain ⟨number, rfl⟩ := fits_iff.mp fit
    exact none number (Numeral.integer?_eq_some_iff.mp read)

/-- The body of a literal is read as a whole number just where it spells one within 64 bits. -/
theorem ofBody?_eq_integer_iff {text : List Char} {number : Int64} :
    ofBody? text = some (.integer number) ↔ SpellsInteger text number.toInt := by
  constructor
  · intro read
    rw [ofBody?] at read
    split at read
    · case h_1 value kept =>
        rw [Option.filter_eq_some_iff] at kept
        obtain ⟨found, fit⟩ := kept
        obtain ⟨same, rfl⟩ := fits_iff.mp fit
        rw [Option.some.injEq, LiteralNumber.integer.injEq, Int64.ofInt_toInt] at read
        subst read
        exact Numeral.integer?_eq_some_iff.mp found
    · split at read
      · split at read <;> cases read
      · cases read
  · intro spelled
    have kept : (Numeral.integer? text).filter fits = some number.toInt := by
      rw [Numeral.integer?_eq_some_iff.mpr spelled, Option.filter_some]
      rw [if_pos (fits_iff.mpr ⟨number, rfl⟩)]
    rw [ofBody?, kept]
    simp only [Int64.ofInt_toInt]

/-- The body of a literal is read as a float just where it spells another finite decimal. -/
theorem ofBody?_eq_float_iff {text : List Char} {number : Binary64} :
    ofBody? text = some (.float number) ↔
      (∀ integer : Int64, ¬SpellsInteger text integer.toInt) ∧
        ∃ negative magnitude,
          SpellsDecimal text negative magnitude ∧
            number.IsRoundingOf negative magnitude ∧
            number.isFinite = true := by
  constructor
  · intro read
    rw [ofBody?] at read
    split at read
    · cases read
    · case h_2 noInteger =>
        refine ⟨filter_fits_eq_none_iff.mp noInteger, ?_⟩
        split at read
        · case h_1 value mapped =>
            obtain ⟨numeral, parsed, rfl⟩ := Option.map_eq_some_iff.mp mapped
            split at read
            · case isTrue finite =>
                rw [Option.some.injEq, LiteralNumber.float.injEq] at read
                subst read
                exact ⟨_, _, Numeral.parse?_eq_some_iff.mp ⟨numeral, parsed, rfl, rfl⟩,
                  Binary.isRoundingOf_ofDecimal _ _ _ _, finite⟩
            · cases read
        · cases read
  · rintro ⟨noInteger, negative, magnitude, spelled, rounded, finite⟩
    obtain ⟨numeral, parsed, rfl, rfl⟩ := Numeral.parse?_eq_some_iff.mpr spelled
    have same : Binary.ofNumeral .binary64 numeral = number :=
      (Binary.isRoundingOf_ofDecimal _ _ _ _).unique rounded
    rw [ofBody?, filter_fits_eq_none_iff.mpr noInteger, parsed]
    simp only [Option.map_some, same, finite, ↓reduceIte]

/-- The filter in front of the readers lets pass whatever they accept. -/
theorem parse?_eq_ofBody? (text : String) : parse? text = ofBody? (body text.toList) := by
  rw [parse?]
  split
  · rfl
  · case isFalse dropped =>
      cases read : ofBody? (body text.toList) with
      | none => rfl
      | some number =>
          refine absurd ?_ dropped
          cases number with
          | integer value =>
              exact endsNumeric_of_spellsInteger (ofBody?_eq_integer_iff.mp read)
          | float value =>
              obtain ⟨_, _, _, spelled, _⟩ := ofBody?_eq_float_iff.mp read
              exact endsNumeric_of_spellsDecimal spelled

theorem isDecimalCharacter_of_spellsInteger
    {text : List Char}
    {value : Int}
    (spelled : SpellsInteger text value) :
    ∀ c ∈ text, isDecimalCharacter c = true := by
  intro c member
  cases spelled with
  | digits isSign allDigits nonempty =>
      rcases List.mem_append.mp member with inSign | inDigits
      · cases isSign <;> simp_all [isDecimalCharacter]
      · simp [isDecimalCharacter, allDigits c inDigits]

/-- A decimal holds digits, points, exponent letters and signs only. -/
theorem isDecimalCharacter_of_spellsDecimal
    {text : List Char}
    {negative : Bool}
    {magnitude : ℚ}
    (spelled : SpellsDecimal text negative magnitude) :
    ∀ c ∈ text, isDecimalCharacter c = true := by
  have digit : ∀ digits : List Char, AllDigits digits → ∀ c ∈ digits,
      isDecimalCharacter c = true := by
    intro digits allDigits c member
    simp [isDecimalCharacter, allDigits c member]
  intro c member
  cases spelled with
  | parts isSign mantissaSpelled exponentSpelled =>
      rcases List.mem_append.mp member with inSign | behindSign
      · cases isSign <;> simp_all [isDecimalCharacter]
      rcases List.mem_append.mp behindSign with inMantissa | inExponent
      · cases mantissaSpelled with
        | noPoint allDigits _ => exact digit _ allDigits c inMantissa
        | digitsThenPoint allWhole _ allFraction =>
            rcases List.mem_append.mp inMantissa with inWhole | behindWhole
            · exact digit _ allWhole c inWhole
            · rcases List.mem_cons.mp behindWhole with rfl | inFraction
              · rfl
              · exact digit _ allFraction c inFraction
        | pointThenDigits allFraction _ =>
            rcases List.mem_cons.mp inMantissa with rfl | inFraction
            · rfl
            · exact digit _ allFraction c inFraction
      · cases exponentSpelled with
        | absent => cases inExponent
        | marked isMark integerSpelled =>
            rcases List.mem_cons.mp inExponent with rfl | inInteger
            · rcases isMark with rfl | rfl <;> rfl
            · exact isDecimalCharacter_of_spellsInteger integerSpelled c inInteger

/-- The body of a literal is no number just where it spells neither. -/
theorem ofBody?_eq_none_iff {text : List Char} :
    ofBody? text = none ↔
      (∀ integer : Int64, ¬SpellsInteger text integer.toInt) ∧
        ∀ negative magnitude (number : Binary64),
          SpellsDecimal text negative magnitude →
            number.IsRoundingOf negative magnitude →
            number.isFinite = false := by
  constructor
  · intro read
    have noInteger : ∀ integer : Int64, ¬SpellsInteger text integer.toInt := by
      intro integer spelled
      rw [ofBody?_eq_integer_iff.mpr spelled] at read
      cases read
    refine ⟨noInteger, ?_⟩
    intro negative magnitude number spelled rounded
    rw [Bool.eq_false_iff]
    intro finite
    rw [ofBody?_eq_float_iff.mpr ⟨noInteger, negative, magnitude, spelled, rounded, finite⟩] at read
    cases read
  · rintro ⟨noInteger, noFloat⟩
    cases read : ofBody? text with
    | none => rfl
    | some found =>
        cases found with
        | integer integer => exact absurd (ofBody?_eq_integer_iff.mp read) (noInteger integer)
        | float number =>
            obtain ⟨_, negative, magnitude, spelled, rounded, finite⟩ :=
              ofBody?_eq_float_iff.mp read
            rw [noFloat negative magnitude number spelled rounded] at finite
            cases finite

/-- What is read at all spells a decimal. -/
theorem exists_spellsDecimal
    {text : List Char}
    {number : LiteralNumber}
    (read : ofBody? text = some number) :
    ∃ negative magnitude, SpellsDecimal text negative magnitude := by
  cases number with
  | integer integer =>
      obtain ⟨negative, magnitude, spelled, _⟩ := (ofBody?_eq_integer_iff.mp read).spellsValue
      exact ⟨negative, magnitude, spelled⟩
  | float number =>
      obtain ⟨_, negative, magnitude, spelled, _⟩ := ofBody?_eq_float_iff.mp read
      exact ⟨negative, magnitude, spelled⟩

/--
A text has one body.  It is read as a whole number just where the body spells one
within 64 bits, as a float just where the body spells another decimal whose rounding
is finite, and the float is that rounding.  Else it is no number, for which every numeric
kind rejects it; so it is if the body holds anything that is not part of a decimal.
-/
theorem parse?_iff_spelled (text : String) :
    ∃ body,
      (∀ other, IsBody text.toList other ↔ other = body) ∧
        (∀ integer : Int64,
          parse? text = some (.integer integer) ↔ SpellsInteger body integer.toInt) ∧
        (∀ number : Binary64,
          parse? text = some (.float number) ↔
            (∀ integer : Int64, ¬SpellsInteger body integer.toInt) ∧
              ∃ negative magnitude,
                SpellsDecimal body negative magnitude ∧
                  number.IsRoundingOf negative magnitude ∧
                  number.isFinite = true) ∧
        (parse? text = none ↔
          (∀ integer : Int64, ¬SpellsInteger body integer.toInt) ∧
            ∀ negative magnitude (number : Binary64),
              SpellsDecimal body negative magnitude →
                number.IsRoundingOf negative magnitude →
                number.isFinite = false) ∧
        (parse? text = none →
          ∀ kind : Kind, kind.isNumeric = true → kind.check text = .error .notNumberLiteral) ∧
        ∀ c ∈ body, isDecimalCharacter c = false → parse? text = none := by
  refine ⟨body text.toList, fun other => isBody_iff, ?_⟩
  rw [parse?_eq_ofBody?]
  refine ⟨fun _ => ofBody?_eq_integer_iff, fun _ => ofBody?_eq_float_iff, ofBody?_eq_none_iff,
    ?_, ?_⟩
  · intro unread kind numeric
    rw [Kind.check, if_pos numeric, parse?_eq_ofBody?, unread]
  · intro c member foreign
    cases read : ofBody? (body text.toList) with
    | none => rfl
    | some found =>
        obtain ⟨_, _, spelled⟩ := exists_spellsDecimal read
        rw [isDecimalCharacter_of_spellsDecimal spelled c member] at foreign
        cases foreign

end CheckedLiterals.LiteralNumber

namespace CheckedLiterals.Kind

/-- What was judged is a number. -/
theorem mapError_violation_ne (judgement : Except Violation Unit) :
    judgement.mapError Rejection.violation ≠ .error .notNumberLiteral := by
  cases judgement <;> simp [Except.mapError]

/-- A numeric kind finds no number just where the reader of numbers does. -/
theorem check_eq_notNumberLiteral_iff
    {kind : Kind}
    {text : String}
    (numeric : kind.isNumeric = true) :
    kind.check text = .error .notNumberLiteral ↔ LiteralNumber.parse? text = none := by
  rw [check, if_pos numeric]
  cases LiteralNumber.parse? text with
  | none => simp
  | some number => simp [mapError_violation_ne]

end CheckedLiterals.Kind
