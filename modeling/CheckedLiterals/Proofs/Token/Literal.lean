import CheckedLiterals.Proofs.Token.Cutting
import CheckedLiterals.Proofs.Token.Number

namespace CheckedLiterals

/-!
# Literals are what they are spelled

A literal of source text, put out as it is spelled, is cut off again as the same literal,
as long as the text behind it begins with no character of a word, no point and no sign.
-/

/-- Whether a literal is just what its own spelling is cut into. -/
def Literal.IsSpelled (written : Literal) : Prop :=
  Token.literal? written.spelling = some (written, [])

namespace Token

theorem beginsLeaf_of_isDigit
    {c : Char}
    (digit : c.isDigit = true) :
    BeginsLeaf c := by
  have apart : ∀ d, d.isDigit = false → c ≠ d := by
    rintro d none rfl
    rw [digit] at none
    cases none
  refine ⟨apart _ (by decide), ?_, ?_⟩
  · simp [isBlank, Text.not_blank_of_isDigit digit, apart '\u200e' (by decide),
      apart '\u200f' (by decide)]
  · unfold delimiter?
    split
    all_goals first | rfl | exact absurd rfl (apart _ (by decide))

/-- A digit begins no quoted literal. -/
theorem quoted?_of_isDigit
    {c : Char}
    (digit : c.isDigit = true)
    (text : List Char) :
    quoted? (c :: text) = none := by
  cases read : quoted? (c :: text) with
  | none => rfl
  | some found =>
      have apart : ∀ d ∈ ['"', 'r', 'b', 'c', '\''], d.isDigit = false := by simp
      obtain ⟨d, back, shape, first⟩ := exists_of_quoted? read
      cases shape
      rw [apart c first] at digit
      cases digit

/-- A literal is read again from its spelling, before any text that ends it. -/
theorem literal?_spelling
    {text rest : List Char}
    {written : Literal}
    (read : literal? text = some (written, rest)) :
    ∀ more, EndsNumber more → literal? (written.spelling ++ more) = some (written, more) := by
  intro more ends
  rw [literal?] at read
  split at read
  · case h_1 found =>
      cases read
      rw [literal?, (spelling_of_quoted? found).2 more ends.1]
  · obtain ⟨_, c, back, spelled, digit⟩ := exists_of_number? read
    have again := number?_spelling read more ends
    rw [spelled, List.cons_append] at again ⊢
    rw [literal?, quoted?_of_isDigit digit]
    exact again

theorem isSpelled_of_literal?
    {text rest : List Char}
    {written : Literal}
    (read : literal? text = some (written, rest)) :
    written.IsSpelled := by
  have again := literal?_spelling read [] ⟨endsWord_nil, by simp [Prolongs]⟩
  rw [List.append_nil] at again
  exact again

end Token

namespace Literal.IsSpelled

open Token

variable
  {written : Literal}
  (spelled : written.IsSpelled)

include spelled

/-- A literal begins with a quote, a letter in front of one, or a digit, and no comment does. -/
theorem head?_ne_slash : written.spelling.head? ≠ some '/' := by
  rw [IsSpelled, literal?] at spelled
  split at spelled
  · case h_1 found =>
      have apart : ∀ c ∈ ['"', 'r', 'b', 'c', '\''], c ≠ '/' := by simp
      obtain ⟨c, back, shape, first⟩ := exists_of_quoted? found
      simpa [shape] using apart c first
  · obtain ⟨_, c, back, shape, digit⟩ := exists_of_number? spelled
    rw [shape]
    rintro ⟨⟩
    cases digit

/-- A literal is cut off whole, whatever follows its end. -/
theorem lexemes?
    {tail : List Char}
    {more : List Lexeme}
    (ends : EndsNumber tail)
    (read : Token.lexemes? tail = some more) :
    Token.lexemes? (written.spelling ++ tail) = some (.tree (.literal written) :: more) := by
  have again := literal?_spelling spelled tail ends
  rw [IsSpelled, literal?] at spelled
  split at spelled
  · case h_1 quoted =>
      cases spelled
      exact lexemes?_quoted quoted ends.1 read
  · obtain ⟨_, c, back, shape, digit⟩ := exists_of_number? spelled
    rw [shape] at again ⊢
    exact lexemes?_of_leaf? (beginsLeaf_of_isDigit digit) (by rw [leaf?, again]) read

end Literal.IsSpelled

end CheckedLiterals
