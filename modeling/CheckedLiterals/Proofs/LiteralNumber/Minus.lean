import CheckedLiterals.Proofs.Check.Soundness
import CheckedLiterals.Proofs.LiteralNumber.Unreadable

namespace CheckedLiterals

/-!
# A minus in front of a literal

A minus in front of a literal stands in front of its body too, because neither white
space nor type names hold one.  If the literal had no sign, the two denote opposite
rationals, or neither denotes one.
-/

open Text (isWhiteSpace trim trimEnd)

namespace Numeral

/-- A minus in front of a numeral without a sign is its sign. -/
theorem parse?_minus
    {text : List Char}
    (unsigned : splitSign text = (false, text)) :
    parse? ('-' :: text) =
      (parse? text).map fun numeral => { numeral with negative := true } := by
  have signed : splitSign ('-' :: text) = (true, text) := rfl
  simp only [parse?, signed, unsigned]
  split
  · rfl
  · rw [Option.map_map]
    rfl

/-- A numeral without a sign is not negative. -/
theorem negative_eq_false
    {text : List Char}
    {numeral : Numeral}
    (unsigned : splitSign text = (false, text))
    (parsed : parse? text = some numeral) :
    numeral.negative = false := by
  simp only [parse?, unsigned] at parsed
  split at parsed
  · cases parsed
  · obtain ⟨_, _, rfl⟩ := Option.map_eq_some_iff.mp parsed
    rfl

theorem splitSign_of_head?
    {text : List Char}
    (unsigned : ∀ c ∈ text.head?, c ≠ '+' ∧ c ≠ '-') :
    splitSign text = (false, text) := by
  unfold splitSign
  split
  · exact absurd rfl (unsigned '-' rfl).2
  · exact absurd rfl (unsigned '+' rfl).1
  · rfl

end Numeral

namespace LiteralNumber

/-- Whether a literal begins neither with white space nor, behind underscores, with a sign. -/
structure IsUnsigned (text : String) : Prop where
  solid : ∀ c ∈ text.toList.head?, isWhiteSpace c = false
  unsigned : ∀ c ∈ text.toList.find? (· != '_'), c ≠ '+' ∧ c ≠ '-'

instance (text : String) : Decidable (IsUnsigned text) :=
  decidable_of_iff
    ((text.toList.head?.all fun c => !isWhiteSpace c) = true ∧
      ((text.toList.find? (· != '_')).all fun c => c != '+' && c != '-') = true)
    ⟨fun both =>
        ⟨by simpa [Option.all_eq_true] using both.1, by simpa [Option.all_eq_true] using both.2⟩,
      fun both =>
        ⟨by simpa [Option.all_eq_true] using both.solid,
          by simpa [Option.all_eq_true] using both.unsigned⟩⟩

/-- White space behind a minus is taken off as it is without the minus. -/
theorem trimEnd_minus (text : List Char) : trimEnd ('-' :: text) = '-' :: trimEnd text := by
  have dash : ['-'].dropWhile isWhiteSpace = ['-'] := by decide
  rw [trimEnd, List.reverse_cons, List.dropWhile_append, dash, trimEnd]
  split
  · case isTrue empty =>
      rw [List.isEmpty_iff.mp empty]
      rfl
  · rw [List.reverse_append]
    rfl

/-- No type name holds a minus, so none ends further in front because of one. -/
theorem withoutSuffix_minus (text : List Char) :
    withoutSuffix ('-' :: text) = '-' :: withoutSuffix text := by
  have noMinus : ∀ typeName ∈ typeNames, '-' ∉ typeName := by decide
  have drops : DropsTypeName text (withoutSuffix text) := dropsTypeName_iff.mpr rfl
  rw [eq_comm, ← dropsTypeName_iff]
  cases drops with
  | named typeName isName shape =>
      exact .named typeName isName (congrArg ('-' :: ·) shape)
  | unnamed none shape =>
      refine .unnamed ?_ (congrArg ('-' :: ·) shape)
      intro typeName isName ends
      rcases List.suffix_cons_iff.mp ends with whole | inside
      · exact noMinus typeName isName (by simp [whole])
      · exact none typeName isName inside

/-- A minus in front of a text stands in front of its body, if no white space follows it. -/
theorem body_minus
    {text : List Char}
    (solid : ∀ c ∈ text.head?, isWhiteSpace c = false) :
    body ('-' :: text) = '-' :: body text := by
  have kept : text.dropWhile isWhiteSpace = text := by
    cases text with
    | nil => rfl
    | cons c rest => rw [List.dropWhile_cons_of_neg (by simp [solid c rfl])]
  have trimmed : trim ('-' :: text) = '-' :: trim text := by
    rw [trim, trim, kept, List.dropWhile_cons_of_neg (by decide), trimEnd_minus]
  rw [body, body, trimmed, withoutSuffix_minus, List.filter_cons_of_pos (by decide)]

/-- The body of a text that does not begin with white space begins as the text does. -/
theorem head?_body
    {text : List Char}
    (solid : ∀ c ∈ text.head?, isWhiteSpace c = false) :
    ∀ c ∈ (body text).head?, text.find? (· != '_') = some c := by
  obtain ⟨left, stem, name, right, parts, leftBlank, _, _, shape⟩ := exists_stem text
  have noneLeft : left = [] := by
    cases left with
    | nil => rfl
    | cons c rest =>
        rw [parts] at solid
        have blank := leftBlank c (by simp)
        rw [solid c rfl] at blank
        cases blank
  intro c first
  rw [shape, List.head?_filter] at first
  rw [parts, noneLeft, List.nil_append, List.append_assoc, List.find?_append,
    Option.mem_def.mp first, Option.some_or]

namespace IsUnsigned

variable {text : String}

theorem body_minus
    (isUnsigned : IsUnsigned text) :
    body ("-" ++ text).toList = '-' :: body text.toList := by
  rw [String.toList_append]
  exact LiteralNumber.body_minus isUnsigned.solid

/-- The body of a literal without a sign has none. -/
theorem splitSign_body
    (isUnsigned : IsUnsigned text) :
    Numeral.splitSign (body text.toList) = (false, body text.toList) := by
  apply Numeral.splitSign_of_head?
  intro c first
  exact isUnsigned.unsigned c (head?_body isUnsigned.solid c first)

/-- A literal without a sign and the literal with a minus in front denote opposite rationals. -/
theorem denotes_minus_iff
    (isUnsigned : IsUnsigned text)
    {value : ℚ} :
    Denotes ("-" ++ text) value ↔ Denotes text (-value) := by
  have parsed := Numeral.parse?_minus isUnsigned.splitSign_body
  rw [denotes_iff, denotes_iff, isUnsigned.body_minus, parsed]
  constructor
  · rintro ⟨_, isMinus, rfl⟩
    obtain ⟨numeral, isNumeral, rfl⟩ := Option.map_eq_some_iff.mp isMinus
    refine ⟨numeral, isNumeral, ?_⟩
    rw [Numeral.negative_eq_false isUnsigned.splitSign_body isNumeral]
    exact neg_neg _
  · rintro ⟨numeral, isNumeral, opposite⟩
    rw [Numeral.negative_eq_false isUnsigned.splitSign_body isNumeral] at opposite
    exact ⟨_, Option.map_eq_some_iff.mpr ⟨numeral, isNumeral, rfl⟩, neg_eq_iff_eq_neg.mp opposite⟩

end IsUnsigned

end LiteralNumber

end CheckedLiterals
