import CheckedLiterals.Proofs.Binary.Bounds
import CheckedLiterals.Proofs.Check.Stages
import CheckedLiterals.Proofs.LiteralNumber.Rounded
import CheckedLiterals.Proofs.Numeral.Written

namespace CheckedLiterals

/-!
# Whole numbers in digits

A whole number of any type, written in digits, is judged as a literal just as it is
judged as a value.  Beyond 64 bits it is rounded, to double width and then to single
width and there perhaps to infinity, but no rounding crosses minus one, zero or one.
-/

open Numeral (IsSign SpellsDecimal SpellsInteger)

/-- Whether an expansion and a predicate agree: both accept, or the answer words the violation. -/
def Agrees (outcome : Except Rejection Expansion) (answer : Except String Unit) : Prop :=
  match outcome with
  | .ok _ => answer = .ok ()
  | .error (.violation fault) => answer = .error fault.valueMessage
  | .error .missingArguments => False
  | .error .notNumberLiteral => False

theorem WholeType.name_mem_typeNames (type : WholeType) :
    type.name.toList ∈ LiteralNumber.typeNames := by
  cases type <;> decide

namespace Whole

variable {type : WholeType}

/-- The text of a whole number spells it. -/
theorem spellsInteger_text (number : Whole type) : SpellsInteger number.text number.value := by
  rw [text]
  split
  · case isTrue below =>
      have spelled := Numeral.spellsInteger_toDigits .minus number.value.natAbs
      rwa [if_pos rfl, ← Int.eq_neg_natAbs_of_nonpos below.le] at spelled
  · case isFalse notBelow =>
      have spelled := Numeral.spellsInteger_toDigits .absent number.value.natAbs
      rwa [if_neg Bool.false_ne_true, Int.natAbs_of_nonneg (not_lt.mp notBelow)] at spelled

/-- No type has numbers of more than 128 bits. -/
theorem abs_value_le (number : Whole type) : |(number.value : ℚ)| ≤ 2 ^ 128 := by
  obtain ⟨lower, upper⟩ := number.holds
  have least : -2 ^ 128 ≤ type.least := by cases type <;> decide
  have bound : type.bound ≤ 2 ^ 128 := by cases type <;> decide
  have bounded : |number.value| ≤ 2 ^ 128 := abs_le.mpr ⟨by omega, by omega⟩
  exact_mod_cast bounded

end Whole

namespace Kind

theorem checkNumber_integer (kind : Kind) (number : Int64) :
    kind.checkNumber (.integer number) = kind.judgeLiteral (.integer number) := by
  rw [checkNumber]
  cases kind.judgeLiteral (.integer number) <;> rfl

theorem checkNumber_float (kind : Kind) (number : Binary64) :
    kind.checkNumber (.float number) =
      (kind.judgeLiteral (.float number) >>= fun _ =>
        kind.judgeLiteral (.float ((number.convert .binary32).convert .binary64))) := by
  rw [checkNumber]
  cases kind.judgeLiteral (.float number) <;> rfl

theorem check_of_parse?
    {kind : Kind}
    {text : String}
    {number : LiteralNumber}
    (numeric : kind.isNumeric = true)
    (read : LiteralNumber.parse? text = some number) :
    kind.check text = (kind.checkNumber number).mapError .violation := by
  rw [check, if_pos numeric, read]

/-- A literal's number that sides with a whole number is judged as the whole number. -/
theorem judgeLiteral_of_sidesWith
    (kind : Kind)
    {number : Binary64}
    {whole : Int}
    (sides : number.SidesWith whole) :
    kind.judgeLiteral (.float number) = kind.verdict (fun bound => bound) whole := by
  apply kind.judgeLiteral_eq_verdict
  intro bound small
  rw [LiteralNumber.compareInt, sides.compareInt?_eq small, Option.getD_some]

/-- So it is once it was narrowed to single width. -/
theorem checkNumber_of_standsFor
    (kind : Kind)
    {number : LiteralNumber}
    {whole : Int}
    (standsFor : number.StandsFor whole) :
    kind.checkNumber number = kind.verdict (fun bound => bound) whole := by
  cases number with
  | integer number =>
      have same : whole = number.toInt := Rat.intCast_injective standsFor
      rw [checkNumber_integer, same]
      exact kind.judgeLiteral_eq_verdict fun _ _ => rfl
  | float number =>
      have sides := standsFor.2.sidesWith
      have narrowedSides := (sides.convert .binary32).convert .binary64
      rw [checkNumber_float, kind.judgeLiteral_of_sidesWith sides,
        kind.judgeLiteral_of_sidesWith narrowedSides]
      cases kind.verdict (fun bound => bound) whole <;> rfl

/--
The check of a literal that is finite in double width is the check of the number that it
rounds to, also where it is read as a whole number.
-/
theorem check_of_roundsTo
    {kind : Kind}
    {text : String}
    {number : Binary64}
    (numeric : kind.isNumeric = true)
    (rounds : LiteralNumber.RoundsTo text number)
    (finite : number.isFinite = true) :
    kind.check text = (kind.checkNumber (.float number)).mapError .violation := by
  rcases rounds.parse?_of_finite finite with float | ⟨integer, isInteger, asFloat⟩
  · exact check_of_parse? numeric float
  · have asInteger : (LiteralNumber.integer integer).StandsFor integer.toInt :=
      rfl
    rw [check_of_parse? numeric isInteger, kind.checkNumber_of_standsFor asInteger,
      kind.checkNumber_of_standsFor asFloat]

/-- So it is the check of what a decimal rounds to, with a type name behind it or without. -/
theorem check_of_spellsDecimal
    {kind : Kind}
    {text suffix : List Char}
    {negative : Bool}
    {magnitude : ℚ}
    {number : Binary64}
    (numeric : kind.isNumeric = true)
    (isSuffix : suffix = [] ∨ suffix ∈ LiteralNumber.typeNames)
    (spelled : SpellsDecimal text negative magnitude)
    (rounded : number.IsRoundingOf negative magnitude)
    (finite : number.isFinite = true) :
    kind.check (String.ofList (text ++ suffix)) =
      (kind.checkNumber (.float number)).mapError .violation :=
  check_of_roundsTo numeric (LiteralNumber.roundsTo_append isSuffix spelled rounded) finite

/-- The check of a whole number that is written in digits gives the verdict on the number. -/
theorem check_of_spellsInteger
    {kind : Kind}
    {text suffix : List Char}
    {whole : Int}
    (numeric : kind.isNumeric = true)
    (isSuffix : suffix = [] ∨ suffix ∈ LiteralNumber.typeNames)
    (spelled : SpellsInteger text whole)
    (bounded : |(whole : ℚ)| ≤ 2 ^ 128) :
    kind.check (String.ofList (text ++ suffix)) =
      (kind.verdict (fun bound => bound) whole).mapError .violation := by
  obtain ⟨negative, magnitude, decimal, value⟩ := spelled.spellsValue
  have nonneg := decimal.magnitude_nonneg
  obtain ⟨number, rounded⟩ := Binary.exists_isRoundingOf .binary64 negative nonneg
  have nearest : number.IsNearestTo whole := ⟨negative, magnitude, nonneg, value, rounded⟩
  have finite := nearest.isFinite bounded (by decide)
  have standsFor : (LiteralNumber.float number).StandsFor whole := ⟨finite, nearest⟩
  rw [check_of_spellsDecimal numeric isSuffix decimal rounded finite,
    kind.checkNumber_of_standsFor standsFor]

/-- The only kind that some type of whole numbers has no predicate for is the negative one. -/
theorem not_mem_kinds_whole
    {kind : Kind}
    {type : WholeType}
    (numeric : kind.isNumeric = true)
    (absent : kind ∉ (ValueType.whole type).kinds) :
    kind = .negative ∧ type.isSigned = false := by
  have listed := kind.mem_all
  simp only [ValueType.kinds, List.mem_filter, listed, numeric, true_and, Bool.true_and,
    Bool.or_eq_true, bne_iff_ne, not_or, ne_eq, not_not] at absent
  exact ⟨absent.2, Bool.eq_false_iff.mpr absent.1⟩

/-- A number without a sign is not negative. -/
theorem verdict_negative_of_unsigned
    {type : WholeType}
    (unsigned : type.isSigned = false)
    (number : Whole type) :
    verdict .negative (fun bound => bound) number.value = .error .notNegative := by
  have nonneg := number.holds.1
  rw [WholeType.least, unsigned] at nonneg
  rw [verdict, if_neg (by simpa using nonneg)]

/-- An accepted verdict becomes the expansion of the text, and a fault its rejection. -/
theorem expand_of_check
    {kind : Kind}
    {text : String}
    {judgement : Except Violation Unit}
    (checked : kind.check text = judgement.mapError .violation) :
    kind.expand [text] =
      (judgement.mapError .violation).map fun _ => { kind := kind, literal := text } := by
  simp only [expand, firstArgument, checked]
  cases judgement <;> rfl

/--
A whole number of any of the twelve types is written in digits, with the name of its type
behind them or without.  Then a numeric kind accepts the text as a literal just where the
predicate of the kind accepts the number, else it reports the violation that the predicate
words, which is the verdict on the number.  The one kind that types without a sign have no
predicate for rejects all of their numbers.
-/
theorem expand_wholeText
    {kind : Kind}
    (numeric : kind.isNumeric = true)
    {type : WholeType}
    (number : Whole type)
    {suffix : List Char}
    (isSuffix : suffix = [] ∨ suffix = type.name.toList) :
    let outcome := kind.expand [String.ofList (number.text ++ suffix)]
    (kind ∈ (ValueType.whole type).kinds →
      Agrees outcome (kind.predicate.check number) ∧
        Words (kind.predicate.check number) (kind.verdict (fun bound => bound) number.value)) ∧
      (kind ∉ (ValueType.whole type).kinds →
        kind = .negative ∧
          type.isSigned = false ∧
          outcome = .error (.violation .notNegative)) := by
  intro outcome
  have named : suffix = [] ∨ suffix ∈ LiteralNumber.typeNames := by
    refine isSuffix.imp_right ?_
    rintro rfl
    exact type.name_mem_typeNames
  have expanded : outcome = _ :=
    expand_of_check (check_of_spellsInteger numeric named number.spellsInteger_text
      number.abs_value_le)
  rw [expanded]
  constructor
  · intro _
    rw [predicate_check, judgeValue_whole]
    refine ⟨?_, words_mapError _⟩
    cases kind.verdict (fun bound => bound) number.value <;> exact rfl
  · intro absent
    obtain ⟨rfl, unsigned⟩ := not_mem_kinds_whole numeric absent
    rw [verdict_negative_of_unsigned unsigned]
    exact ⟨rfl, unsigned, rfl⟩

/-- The least number of 128 bits with a sign is rounded, and rejected as below minus one. -/
theorem expand_wholeText_least :
    let number : Whole .i128 := ⟨-2 ^ 127, by decide⟩
    let text := "-170141183460469231731687303715884105728i128"
    isNumeric .minusOneToOne = true ∧
      String.ofList (number.text ++ (WholeType.name .i128).toList) = text ∧
      Agrees (expand .minusOneToOne [text]) ((predicate .minusOneToOne).check number) ∧
      expand .minusOneToOne [text] = .error (.violation .lessThanMinusOne) := by
  intro number text
  have numeric : isNumeric .minusOneToOne = true := rfl
  have spelled : String.ofList (number.text ++ (WholeType.name .i128).toList) = text := by
    decide +kernel
  have agreed := expand_wholeText numeric number (.inr rfl)
  simp only [spelled] at agreed
  exact ⟨numeric, spelled, (agreed.1 (by decide)).1, by decide +kernel⟩

end Kind

end CheckedLiterals
