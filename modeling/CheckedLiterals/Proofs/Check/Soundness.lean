import CheckedLiterals.Expansion
import CheckedLiterals.Proofs.Check.Judgement
import CheckedLiterals.Proofs.LiteralNumber.Reading
import CheckedLiterals.Refined.Basic

namespace CheckedLiterals

/-!
# Accepted literals are accepted again at run time

A literal is checked as a double-width number and as that number in single width,
while the program that it stands in rounds it straight to its own type.  Whatever
the check accepts, the predicate of its kind accepts at every type that the literal
can be given, so the constructor call in the expansion never fails.
-/

open Binary (Format)
open Numeral (SpellsInteger SpellsValue)

namespace LiteralNumber

/-- Whether a literal denotes a rational: its body spells it. -/
def Denotes (text : String) (value : ℚ) : Prop :=
  ∃ body, IsBody text.toList body ∧ SpellsValue body value

/-- Whether a literal is spelled as a whole number. -/
def DenotesWhole (text : String) (value : Int) : Prop :=
  ∃ body, IsBody text.toList body ∧ SpellsInteger body value

/-- Whether a literal's number stands for a rational: it is the rational, or is nearest to it. -/
def StandsFor (number : LiteralNumber) (value : ℚ) : Prop :=
  match number with
  | .integer number => value = number.toInt
  | .float number => number.isFinite = true ∧ number.IsNearestTo value

/-- What a literal denotes is computed from its body. -/
theorem denotes_iff
    {text : String}
    {value : ℚ} :
    Denotes text value ↔
      ∃ numeral,
        Numeral.parse? (body text.toList) = some numeral ∧
          value = (if numeral.negative then -numeral.magnitude else numeral.magnitude) := by
  constructor
  · rintro ⟨_, isBody, _, _, spelled, rfl⟩
    rw [isBody_iff] at isBody
    subst isBody
    obtain ⟨numeral, parsed, rfl, rfl⟩ := Numeral.parse?_eq_some_iff.mpr spelled
    exact ⟨numeral, parsed, rfl⟩
  · rintro ⟨numeral, parsed, rfl⟩
    exact ⟨_, isBody_iff.mpr rfl, _, _,
      Numeral.parse?_eq_some_iff.mp ⟨numeral, parsed, rfl, rfl⟩, rfl⟩

theorem Denotes.unique
    {text : String}
    {value other : ℚ}
    (denotes : Denotes text value)
    (otherDenotes : Denotes text other) :
    value = other := by
  obtain ⟨body, isBody, spelled⟩ := denotes
  obtain ⟨otherBody, otherIsBody, otherSpelled⟩ := otherDenotes
  rw [isBody_iff] at isBody otherIsBody
  subst isBody otherIsBody
  exact spelled.unique otherSpelled

theorem DenotesWhole.denotes
    {text : String}
    {value : Int}
    (denotes : DenotesWhole text value) :
    Denotes text value := by
  obtain ⟨body, isBody, spelled⟩ := denotes
  exact ⟨body, isBody, spelled.spellsValue⟩

/-- What is read from a literal stands for the rational that the literal denotes. -/
theorem exists_standsFor
    {text : String}
    {number : LiteralNumber}
    (read : parse? text = some number) :
    ∃ value, Denotes text value ∧ number.StandsFor value := by
  rw [parse?_eq_ofBody?] at read
  cases number with
  | integer number =>
      have spelled := ofBody?_eq_integer_iff.mp read
      exact ⟨number.toInt, ⟨_, isBody_iff.mpr rfl, spelled.spellsValue⟩, rfl⟩
  | float number =>
      obtain ⟨_, negative, magnitude, spelled, rounded, finite⟩ := ofBody?_eq_float_iff.mp read
      exact ⟨_, ⟨_, isBody_iff.mpr rfl, negative, magnitude, spelled, rfl⟩, finite,
        negative, magnitude, spelled.magnitude_nonneg, rfl, rounded⟩

theorem compareInt_float
    {number : Binary64}
    {rank : Int}
    (standsAt : number.rank? = some rank)
    (bound : Int)
    (small : bound.natAbs ≤ 1) :
    compareInt (.float number) bound = compare rank (bound * 2 ^ Format.scale .binary64) := by
  rw [compareInt, Kind.compareInt?_of_rank standsAt bound small, Option.getD_some]

end LiteralNumber

namespace Kind

/--
What is admitted in double width is admitted in single width too, if the number is still
allowed once it was narrowed: only near zero does single width ask for more.
-/
theorem admits_binary32
    (kind : Kind)
    {number : Binary64}
    {value : ℚ}
    {narrowed : Int}
    (nearest : number.IsNearestTo value)
    (finite : number.isFinite = true)
    (narrowedStands : ((number.convert .binary32).convert .binary64).rank? = some narrowed)
    (admitted : kind.Admits .binary64 value)
    (allowed : kind.Allows (2 ^ Format.scale .binary64) narrowed) :
    kind.Admits .binary32 value := by
  have halfOrder := Format.halfUnit_le .binary32
  have slackOrder := Format.slack_le .binary32
  have notAbove := nearest.rank_narrowed_nonpos finite narrowedStands
  have notBelow := nearest.rank_narrowed_nonneg finite narrowedStands
  cases kind with
  | positive => exact lt_of_not_ge fun small => absurd (notAbove small) allowed.not_ge
  | negative => exact lt_of_not_ge fun small => absurd (notBelow small) allowed.not_ge
  | nonPositive => exact admitted.trans halfOrder
  | nonNegative => exact (neg_le_neg halfOrder).trans admitted
  | nonZero =>
      by_contra neither
      obtain ⟨high, low⟩ := not_or.mp neither
      exact allowed (le_antisymm (notAbove (not_lt.mp high)) (notBelow (not_lt.mp low)))
  | nonEmptyString => exact admitted
  | zeroToOne =>
      obtain ⟨high, low⟩ := admitted
      exact ⟨by linarith, by linarith⟩
  | minusOneToOne =>
      obtain ⟨high, low⟩ := admitted
      exact ⟨by linarith, by linarith⟩

/-- If a literal's number passes the check, its kind admits the rational behind it everywhere. -/
theorem admits_of_checkNumber
    {kind : Kind}
    {number : LiteralNumber}
    {value : ℚ}
    (standsFor : number.StandsFor value)
    (accepted : kind.checkNumber number = .ok ())
    (format : Format) :
    kind.Admits format value := by
  rw [checkNumber] at accepted
  split at accepted
  · cases accepted
  · case h_2 judged =>
      cases number with
      | integer number =>
          have allowed : kind.Allows 1 number.toInt := by
            rw [← kind.judgeLiteral_eq_ok_iff]
            · exact judged
            · intro bound _
              rw [LiteralNumber.compareInt, Int.mul_one]
          rw [standsFor]
          exact (kind.allows_one_iff_admits format number.toInt).mp allowed
      | float number =>
          obtain ⟨finite, nearest⟩ := standsFor
          obtain ⟨rank, standsAt⟩ := nearest.exists_rank
          obtain ⟨single, singleStands, _⟩ := Binary.exists_rank_convert .binary32 standsAt
          obtain ⟨narrowed, narrowedStands, _⟩ :=
            Binary.exists_rank_convert .binary64 singleStands
          rw [kind.judgeLiteral_eq_ok_iff (LiteralNumber.compareInt_float standsAt),
            kind.allows_rank_iff nearest standsAt] at judged
          cases format with
          | binary64 => exact judged
          | binary32 =>
              change kind.judgeLiteral (.float _) = .ok () at accepted
              rw [kind.judgeLiteral_eq_ok_iff (LiteralNumber.compareInt_float narrowedStands)]
                at accepted
              exact kind.admits_binary32 nearest finite narrowedStands judged accepted

/-- A literal that a numeric kind accepts denotes a rational that the kind admits everywhere. -/
theorem exists_admits_of_check
    {kind : Kind}
    {text : String}
    (numeric : kind.isNumeric = true)
    (accepted : kind.check text = .ok ()) :
    ∃ value, LiteralNumber.Denotes text value ∧ ∀ format, kind.Admits format value := by
  rw [check, if_pos numeric] at accepted
  split at accepted
  · cases accepted
  · case h_2 number read =>
      obtain ⟨value, denotes, standsFor⟩ := LiteralNumber.exists_standsFor read
      cases checked : kind.checkNumber number with
      | error fault =>
          rw [checked] at accepted
          cases accepted
      | ok => exact ⟨value, denotes, admits_of_checkNumber standsFor checked⟩

/-- Whether a kind accepts a literal: it expands to a constructor call. -/
def Accepts (kind : Kind) (text : String) : Prop :=
  ∃ expansion, kind.expand [text] = .ok expansion

theorem expand_eq_ok_iff
    {kind : Kind}
    {text : String}
    {expansion : Expansion} :
    kind.expand [text] = .ok expansion ↔
      kind.check text = .ok () ∧ expansion = { kind := kind, literal := text } := by
  simp only [expand, firstArgument]
  cases kind.check text with
  | error rejection => simp
  | ok => simp [eq_comm]

theorem expand_eq_error_iff
    {kind : Kind}
    {text : String}
    {rejection : Rejection} :
    kind.expand [text] = .error rejection ↔ kind.check text = .error rejection := by
  simp only [expand, firstArgument]
  cases kind.check text <;> simp

/-- A value that is judged well passes the predicate, which lets it be refined. -/
theorem passes_of_judgeValue
    {Value : Type}
    [Comparable Value]
    {kind : Kind}
    {value : Value}
    (judged : kind.judgeValue value = .ok ()) :
    kind.predicate.check value = .ok () ∧
      Refined.check kind.predicate value = .ok { value := value, provenance := .checked } := by
  have passed : kind.predicate.check value = .ok () := by
    change (kind.judgeValue value).mapError Violation.valueMessage = .ok ()
    rw [judged, Except.mapError]
  exact ⟨passed, by rw [Refined.check, passed]⟩

/--
A literal that a numeric kind accepts denotes one rational, and is emitted as it is.  Whatever
floating-point number is nearest to the rational, in either format and with either sign of
zero, passes the kind's predicate, which lets it be refined; and if the literal is spelled as
a whole number, so does the number at every type that holds it and has the predicate.
-/
theorem expand_refines
    {kind : Kind}
    {text : String}
    {expansion : Expansion}
    (numeric : kind.isNumeric = true)
    (accepted : kind.expand [text] = .ok expansion) :
    expansion = { kind := kind, literal := text } ∧
      ∃ value,
        (∀ other, LiteralNumber.Denotes text other ↔ other = value) ∧
          (∀ format : Format,
            (∃ number : Binary format, number.IsNearestTo value) ∧
              ∀ number : Binary format,
                number.IsNearestTo value →
                  kind.predicate.check number = .ok () ∧
                    Refined.check kind.predicate number =
                      .ok { value := number, provenance := .checked }) ∧
          ∀ whole,
            LiteralNumber.DenotesWhole text whole →
              whole = value ∧
                ∀ (type : WholeType) (number : Whole type),
                  number.value = whole →
                    kind ∈ (ValueType.whole type).kinds →
                    kind.predicate.check number = .ok () ∧
                      Refined.check kind.predicate number =
                        .ok { value := number, provenance := .checked } := by
  obtain ⟨checked, shape⟩ := expand_eq_ok_iff.mp accepted
  obtain ⟨value, denotes, admitted⟩ := exists_admits_of_check numeric checked
  refine ⟨shape, value, ?_, ?_, ?_⟩
  · intro other
    constructor
    · intro otherDenotes
      exact otherDenotes.unique denotes
    · rintro rfl
      exact denotes
  · intro format
    refine ⟨Binary.exists_isNearestTo format value, ?_⟩
    intro number nearest
    exact passes_of_judgeValue ((kind.judgeValue_binary_eq_ok_iff nearest).mpr (admitted format))
  · intro whole denotesWhole
    have same : (whole : ℚ) = value := denotesWhole.denotes.unique denotes
    refine ⟨same, ?_⟩
    rintro type number rfl _
    rw [← same] at admitted
    apply passes_of_judgeValue
    rw [judgeValue_whole_eq_ok_iff, kind.allows_one_iff_admits .binary64]
    exact admitted .binary64

/-- A literal above one that rounds to one is accepted, and both formats refine it. -/
theorem expand_refines_justAboveOne :
    Kind.isNumeric .zeroToOne = true ∧
      Kind.expand .zeroToOne ["1.00000000000000001"] =
        .ok { kind := .zeroToOne, literal := "1.00000000000000001" } ∧
      ∃ value,
        LiteralNumber.Denotes "1.00000000000000001" value ∧
          ∀ (format : Format) (number : Binary format),
            number.IsNearestTo value →
              (predicate .zeroToOne).check number = .ok () ∧
                Refined.check (predicate .zeroToOne) number =
                  .ok { value := number, provenance := .checked } := by
  have accepted : Kind.expand .zeroToOne ["1.00000000000000001"] =
      .ok { kind := .zeroToOne, literal := "1.00000000000000001" } := by
    decide +kernel
  obtain ⟨_, value, denotes, refined, _⟩ := expand_refines rfl accepted
  exact ⟨rfl, accepted, value, (denotes value).mpr rfl, fun format => (refined format).2⟩

end Kind

end CheckedLiterals
