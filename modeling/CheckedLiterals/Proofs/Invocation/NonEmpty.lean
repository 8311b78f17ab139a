import CheckedLiterals.Proofs.Invocation.Outcome
import CheckedLiterals.Refined.Basic

namespace CheckedLiterals

/-!
# What the string kind lets pass

A string literal is checked by its quoted value, which is longer than its two quotes
just where the value has a character.  Every other expression is checked by the
length of its source text, which says nothing about the value that it has when the
program runs.  So the check holds for string literals and for nothing longer than
two characters besides, and an expression that is no literal may slip through it.
-/

theorem Text.escape_ne_nil (c : Char) : Text.escape c ≠ [] := by
  simp only [Text.escape, Text.escapeCode]
  repeat' split
  all_goals simp

theorem Text.two_lt_length_quote_iff {text : List Char} :
    2 < (Text.quote text).length ↔ text ≠ [] := by
  cases text with
  | nil => simp [Text.quote]
  | cons c rest =>
      have written := List.length_pos_iff.mpr (Text.escape_ne_nil c)
      simp only [Text.quote, List.flatMap_cons, List.length_cons, List.length_append, ne_eq,
        reduceCtorEq, not_false_eq_true, iff_true]
      omega

theorem refine_nonEmpty_iff (value : List Char) :
    Refined.check (Predicate.nonEmpty String.toList) (String.ofList value) =
        .ok { value := String.ofList value, provenance := .checked } ↔
      value ≠ [] := by
  simp only [Refined.check, Predicate.nonEmpty, String.toList_ofList]
  cases value <;> simp

namespace FrontEnd

variable {frontEnd : FrontEnd}

/-- Whether the string kind refuses an expression: an empty string, or a text of no length. -/
def IsRefusedAsEmpty (frontEnd : FrontEnd) (expression : Expression) : Prop :=
  expression.stringValue? = some [] ∨
    expression.stringValue? = none ∧ (frontEnd.sourceText expression).length ≤ 2

theorem length_checkedText_le_two_iff (expression : Expression) :
    (frontEnd.checkedText expression).length ≤ 2 ↔ frontEnd.IsRefusedAsEmpty expression := by
  unfold IsRefusedAsEmpty
  cases isString : expression.stringValue? with
  | none =>
      rw [frontEnd.checkedText_of_stringValue?_eq_none isString]
      simp
  | some value =>
      rw [frontEnd.checkedText_of_stringValue? isString, ← Nat.not_lt,
        Text.two_lt_length_quote_iff]
      simp

/-- The string kind rejects just what is refused as empty. -/
theorem check_nonEmptyString
    (first : Expression) :
    (Kind.check .nonEmptyString (String.ofList (frontEnd.checkedText first)) = .ok () ↔
        ¬frontEnd.IsRefusedAsEmpty first) ∧
      (Kind.check .nonEmptyString (String.ofList (frontEnd.checkedText first)) =
          .error (.violation .empty) ↔
        frontEnd.IsRefusedAsEmpty first) := by
  rw [← length_checkedText_le_two_iff first]
  simp only [Kind.check, Kind.isNumeric, Bool.false_eq_true, ↓reduceIte, String.length_ofList]
  split
  · simp
    omega
  · simp
    omega

/--
In every front end, an invocation of the string kind on any expressions, also those that are
read from its tokens, is rejected as empty just where the first of them is refused as empty.  All
that it emits is the constructor call on a string literal that the run-time predicate accepts,
just where the first expression is a string literal, or has at most two characters, or cannot be
put out.
-/
theorem expandExpressions_nonEmptyString
    (frontEnd : FrontEnd)
    (arguments : List Expression) :
    (∀ trees,
        frontEnd.arguments? trees = some arguments →
          frontEnd.expandTrees .nonEmptyString trees =
            frontEnd.expandExpressions .nonEmptyString arguments) ∧
      (∀ first rest,
        arguments = first :: rest →
          (frontEnd.expandExpressions .nonEmptyString arguments =
              .error (.rejected (.violation .empty)) ↔
            frontEnd.IsRefusedAsEmpty first)) ∧
      ((∀ emitted,
          frontEnd.expandExpressions .nonEmptyString arguments = .ok emitted →
            ∃ first rest value,
              arguments = first :: rest ∧
                frontEnd.emitted? .nonEmptyString first = some emitted ∧
                first.stringValue? = some value ∧
                Refined.check (Predicate.nonEmpty String.toList) (String.ofList value) =
                  .ok { value := String.ofList value, provenance := .checked }) ↔
        ∀ first rest,
          arguments = first :: rest →
            first.stringValue? ≠ none ∨
              (frontEnd.sourceText first).length ≤ 2 ∨
              frontEnd.emitted? .nonEmptyString first = none) := by
  refine ⟨fun _ read => expandTrees_of_arguments? .nonEmptyString read, ?_, ?_, ?_⟩
  · rintro first rest rfl
    rw [expandExpressions_eq_rejected_iff]
    exact (check_nonEmptyString first).2
  · rintro sound first rest rfl
    apply Classical.byContradiction
    intro exception
    simp only [not_or, Classical.not_not] at exception
    obtain ⟨noString, long, emits⟩ := exception
    obtain ⟨emitted, emits⟩ := Option.ne_none_iff_exists'.mp emits
    have passes : ¬frontEnd.IsRefusedAsEmpty first := by
      simp [IsRefusedAsEmpty, noString, long]
    obtain ⟨other, others, value, same, _, isString, _⟩ :=
      sound emitted (expandExpressions_eq_ok_iff.mpr
        ⟨first, rest, rfl, (check_nonEmptyString first).1.mpr passes, emits⟩)
    rw [← (List.cons.inj same).1, noString] at isString
    cases isString
  · intro condition emitted emits
    obtain ⟨first, rest, rfl, checked, put⟩ := expandExpressions_eq_ok_iff.mp emits
    have passes := (check_nonEmptyString first).1.mp checked
    rw [IsRefusedAsEmpty, not_or, not_and] at passes
    obtain ⟨notEmpty, long⟩ := passes
    cases isString : first.stringValue? with
    | none =>
        rcases condition first rest rfl with literal | short | fails
        · exact absurd isString literal
        · exact absurd short (long isString)
        · rw [fails] at put
          cases put
    | some value =>
        refine ⟨first, rest, value, rfl, put, isString, (refine_nonEmpty_iff value).mpr ?_⟩
        rintro rfl
        exact notEmpty isString

theorem exists_ok_of_toBool
    {Fault Value : Type}
    {outcome : Except Fault Value}
    (succeeds : outcome.toBool = true) :
    ∃ value, outcome = .ok value := by
  cases outcome with
  | error => cases succeeds
  | ok value => exact ⟨value, rfl⟩

/-- A variable passes as a string with characters, although its value may be empty. -/
theorem expandExpressions_nonEmptyString_variable :
    Fragment.trees? (.text "abc") = some [.name "abc".toList] ∧
      (∃ emitted, Kind.expandTrees .nonEmptyString [.name "abc".toList] = .ok emitted) ∧
      (standalone.arguments? [.name "abc".toList]).map (·.map Expression.stringValue?) =
        some [none] := by
  have read : standalone.arguments? [.name "abc".toList] =
      some [.compound .path [.name "abc".toList]] :=
    arguments?_of_expression? (by simp) rfl
  refine ⟨rfl, ?_, by rw [read]; rfl⟩
  rw [Kind.expandTrees, expandTrees_of_arguments? _ read]
  exact exists_ok_of_toBool (by decide +kernel)

end FrontEnd

end CheckedLiterals
