import CheckedLiterals.Expansion
import CheckedLiterals.Proofs.Check.Stages

namespace CheckedLiterals

/-!
# Rendering loses nothing

The emitted code for a string goes on differently from that for a number right behind the path
of the library, and in that for a number the first angle bracket behind the name of the kind
ends the name.  So the code in front of a literal tells the kind, whatever stands for the
literal, and then the literal is what is left without the code behind it.
-/

/-- What stands in front of the first mark does not depend on what follows the mark. -/
theorem Text.eq_of_append_mark
    {mark : Char}
    {front otherFront rest otherRest : List Char}
    (free : mark ∉ front)
    (otherFree : mark ∉ otherFront)
    (same : front ++ mark :: rest = otherFront ++ mark :: otherRest) :
    front = otherFront := by
  have cut : ∀ {text behind : List Char}, mark ∉ text →
      (text ++ mark :: behind).takeWhile (· != mark) = text := by
    intro text behind free
    have inside : ∀ c ∈ text, (c != mark) = true := by
      intro c member
      rw [bne_iff_ne]
      rintro rfl
      exact free member
    rw [List.takeWhile_append_of_pos inside, List.takeWhile_cons_of_neg (by simp),
      List.append_nil]
  rw [← cut free, same, cut otherFree]

theorem Kind.bracket_notMem_name (kind : Kind) : '>' ∉ kind.name.toList := by
  cases kind <;> decide

namespace Expansion

/-- Two kinds of numbers are told apart by their names. -/
theorem eq_of_numeric_opening
    {kind other : Kind}
    {rest otherRest : String}
    (numeric : kind.isNumeric = true)
    (otherNumeric : other.isNumeric = true)
    (same : opening kind ++ rest = opening other ++ otherRest) :
    kind = other := by
  rw [opening_eq_of_isNumeric numeric, opening_eq_of_isNumeric otherNumeric] at same
  simp only [String.append_assoc, String.append_right_inj] at same
  rw [← String.toList_inj] at same
  simp only [String.toList_append] at same
  have names := Text.eq_of_append_mark kind.bracket_notMem_name other.bracket_notMem_name same
  exact Kind.name_injective (String.toList_inj.mp names)

/-- The code for a string does not begin like that for a number. -/
theorem opening_nonEmptyString_ne
    {kind : Kind}
    (numeric : kind.isNumeric = true)
    (rest otherRest : String) :
    opening .nonEmptyString ++ rest ≠ opening kind ++ otherRest := by
  rw [opening_eq_of_isNumeric numeric, ne_eq, ← String.toList_inj]
  simp [opening, libraryPath]

/-- The code in front of a literal tells the kind, whatever the literal is. -/
theorem eq_of_opening
    {kind other : Kind}
    {rest otherRest : String}
    (same : opening kind ++ rest = opening other ++ otherRest) :
    kind = other := by
  cases numeric : kind.isNumeric with
  | true =>
      cases otherNumeric : other.isNumeric with
      | true => exact eq_of_numeric_opening numeric otherNumeric same
      | false =>
          obtain rfl := Kind.eq_nonEmptyString_of_isNumeric otherNumeric
          exact absurd same.symm (opening_nonEmptyString_ne numeric _ _)
  | false =>
      obtain rfl := Kind.eq_nonEmptyString_of_isNumeric numeric
      cases otherNumeric : other.isNumeric with
      | true => exact absurd same (opening_nonEmptyString_ne otherNumeric _ _)
      | false => exact (Kind.eq_nonEmptyString_of_isNumeric otherNumeric).symm

/--
Two expansions are rendered to the same code only if they are of one kind and on one literal,
also if the literals are made of what the code has around them.
-/
theorem render_eq_render_iff
    (kind otherKind : Kind)
    (literal otherLiteral : String) :
    render { kind := kind, literal := literal } =
        render { kind := otherKind, literal := otherLiteral } ↔
      kind = otherKind ∧ literal = otherLiteral := by
  constructor
  · intro same
    simp only [render, String.append_assoc] at same
    obtain rfl := eq_of_opening same
    rw [String.append_right_inj, String.append_left_inj] at same
    exact ⟨rfl, same⟩
  · rintro ⟨rfl, rfl⟩
    rfl

end Expansion

end CheckedLiterals
