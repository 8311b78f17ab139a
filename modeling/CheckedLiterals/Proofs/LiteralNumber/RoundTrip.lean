import CheckedLiterals.Proofs.Binary.ReadBack
import CheckedLiterals.Proofs.Check.WholeSpelling

namespace CheckedLiterals

/-!
# Reading undoes writing

A whole number of 64 bits is read back from its digits.  A finite number of double width is
read back from its text for inspection, with the sign of a zero; there a point or a power of
ten always tells it from a whole number.
-/

open Numeral (AllDigits IsSign SpellsDecimal SpellsInteger)

/-- Whether a character stands in decimals but in no whole number. -/
def isDecimalMark (c : Char) : Bool :=
  c == '.' || c == 'e'

/-- A whole number is spelled without decimal marks. -/
theorem Numeral.SpellsInteger.not_isDecimalMark
    {text : List Char}
    {value : Int}
    (spelled : SpellsInteger text value) :
    ∀ c ∈ text, isDecimalMark c = false := by
  intro c member
  cases spelled with
  | digits isSign allDigits _ =>
      rcases List.mem_append.mp member with inSign | inDigits
      · cases isSign <;> simp_all [isDecimalMark]
      · have digit := allDigits c inDigits
        simp only [isDecimalMark, Bool.or_eq_false_iff, beq_eq_false_iff_ne]
        constructor <;> rintro rfl <;> exact absurd digit (by decide)

namespace Layout

theorem exists_decimalMark_positionalText (digits : List Char) (point : Int) :
    ∃ c ∈ positionalText true digits point, isDecimalMark c = true := by
  refine ⟨'.', ?_, rfl⟩
  rw [positionalText]
  split
  · simp
  · split <;> simp

theorem exists_decimalMark_exponentText
    (exponentPlus : Bool)
    (digits : List Char)
    (power : Int) :
    ∃ c ∈ exponentText exponentPlus digits power, isDecimalMark c = true := by
  refine ⟨'e', ?_, rfl⟩
  simp [exponentText]

/-- A layout that keeps a point and a zero never writes what could be a whole number. -/
theorem exists_decimalMark_write
    {layout : Layout}
    (pointZero : layout.pointZero = true)
    (numeral : Numeral) :
    ∃ c ∈ layout.write numeral, isDecimalMark c = true := by
  rw [write, digitsAndPoint, pointZero]
  dsimp only
  split
  · exact exists_decimalMark_positionalText _ _
  · split
    · exact exists_decimalMark_positionalText _ _
    · exact exists_decimalMark_exponentText _ _ _

end Layout

/-- A whole number of 64 bits as a number of its type. -/
def Whole.ofInt64 (integer : Int64) : Whole .i64 where
  value :=
    integer.toInt
  holds :=
    ⟨integer.minValue_le_toInt, Int.lt_add_one_of_le integer.toInt_le⟩

namespace LiteralNumber

/-- Characters of decimals are their own body. -/
theorem parse?_ofList
    {text : List Char}
    (decimal : ∀ c ∈ text, isDecimalCharacter c = true) :
    parse? (String.ofList text) = ofBody? text := by
  have isBody := isBody_append decimal (.inl rfl)
  rw [List.append_nil, isBody_iff] at isBody
  rw [parse?_eq_ofBody?, String.toList_ofList, ← isBody]

/-- A finite decimal with a decimal mark is read as the float that it rounds to. -/
theorem parse?_of_spellsDecimal
    {text : List Char}
    {negative : Bool}
    {magnitude : ℚ}
    {number : Binary64}
    (spelled : SpellsDecimal text negative magnitude)
    (rounded : number.IsRoundingOf negative magnitude)
    (finite : number.isFinite = true)
    (marked : ∃ c ∈ text, isDecimalMark c = true) :
    parse? (String.ofList text) = some (.float number) := by
  rw [parse?_ofList (isDecimalCharacter_of_spellsDecimal spelled), ofBody?_eq_float_iff]
  refine ⟨?_, negative, magnitude, spelled, rounded, finite⟩
  intro integer spelledWhole
  obtain ⟨c, member, isMark⟩ := marked
  rw [spelledWhole.not_isDecimalMark c member] at isMark
  cases isMark

/--
Every whole number of 64 bits is read back from its digits as this whole number.  Every finite
number of double width is read back from its text for inspection as this float, the same down
to the sign of a zero, and never as a whole number.
-/
theorem parse?_written :
    (∀ integer : Int64,
      parse? (String.ofList (Whole.ofInt64 integer).text) = some (.integer integer)) ∧
      ∀ number : Binary64,
        number.isFinite = true →
          parse? (String.ofList (number.write { style := .inspect })) = some (.float number) := by
  constructor
  · intro integer
    have spelled : SpellsInteger (Whole.ofInt64 integer).text integer.toInt :=
      (Whole.ofInt64 integer).spellsInteger_text
    rw [parse?_ofList (isDecimalCharacter_of_spellsInteger spelled), ofBody?_eq_integer_iff]
    exact spelled
  · intro number finite
    cases number with
    | nan => cases finite
    | infinite negative => cases finite
    | finite negative units represents =>
        apply parse?_of_spellsDecimal (Binary.spellsDecimal_write represents (.inr rfl))
          (Binary.isRoundingOf_shortest .up negative represents) finite
        obtain ⟨c, member, isMark⟩ := Layout.inspected.exists_decimalMark_write rfl
          (Binary.shortest .up negative units represents)
        rw [Binary.write_inspect]
        exact ⟨c, List.mem_append_right _ member, isMark⟩

/-- Zero keeps its minus, and the greatest number of double width all of its digits. -/
theorem parse?_written_extremes :
    let zero : Binary64 := .finite true 0 (by decide +kernel)
    let greatest : Binary64 := .finite false (2 ^ 2098 - 2 ^ 2045) (by decide +kernel)
    zero.isFinite = true ∧
      parse? "-0.0" = some (.float zero) ∧
      greatest.isFinite = true ∧
      parse? "1.7976931348623157e308" = some (.float greatest) := by
  intro zero greatest
  have zeroText : String.ofList (zero.write { style := .inspect }) = "-0.0" := by
    decide +kernel
  have greatestText :
      String.ofList (greatest.write { style := .inspect }) = "1.7976931348623157e308" := by
    decide +kernel
  have zeroRead := parse?_written.2 zero rfl
  have greatestRead := parse?_written.2 greatest rfl
  rw [zeroText] at zeroRead
  rw [greatestText] at greatestRead
  exact ⟨rfl, zeroRead, rfl, greatestRead⟩

end LiteralNumber

end CheckedLiterals
