import CheckedLiterals.Invocation

namespace CheckedLiterals

/-!
# What becomes of an invocation

Only the first argument counts.  If it is a string literal its quoted value is checked, and
otherwise its source text, which is the text that is emitted.  This is so in every front end.
-/

namespace Expression

/-- The value of an expression that is a string literal, in groups or behind attributes or not. -/
def stringValue? : Expression → Option (List Char)
  | .literal written =>
      match written.form with
      | .string value => some value
      | _ => none
  | .grouped inner => inner.stringValue?
  | .attributed _ inner => inner.stringValue?
  | .negation _ => none
  | .compound .. => none

/-- The literal that an expression comes down to, through groups, minuses and attributes. -/
def core? : Expression → Option Literal
  | .literal written => some written
  | .grouped inner => inner.core?
  | .negation operand => operand.core?
  | .attributed _ inner => inner.core?
  | .compound .. => none

/-- How often an expression is negated, through groups and attributes. -/
def minuses : Expression → Nat
  | .literal _ => 0
  | .grouped inner => inner.minuses
  | .negation operand => operand.minuses + 1
  | .attributed _ inner => inner.minuses
  | .compound .. => 0

/-- A string comes down to a literal with its value. -/
theorem exists_core?_of_stringValue?
    {expression : Expression}
    {value : List Char}
    (isString : expression.stringValue? = some value) :
    ∃ written,
      expression.core? = some written ∧ written.form = .string value ∧ expression.minuses = 0 := by
  induction expression with
  | literal written =>
      rw [stringValue?] at isString
      split at isString
      · case h_1 form =>
          cases isString
          exact ⟨written, rfl, form, rfl⟩
      · cases isString
  | grouped inner innerCore => exact innerCore isString
  | negation operand => cases isString
  | attributed attributes inner innerCore => exact innerCore isString
  | compound => cases isString

end Expression

namespace FrontEnd

variable (frontEnd : FrontEnd)

/-- Of a string literal the quoted value is checked. -/
theorem checkedText_of_stringValue?
    {expression : Expression}
    {value : List Char}
    (isString : expression.stringValue? = some value) :
    frontEnd.checkedText expression = Text.quote value := by
  induction expression with
  | literal written =>
      simp only [Expression.stringValue?] at isString
      split at isString
      · case h_1 form =>
          cases isString
          simp only [checkedText, form]
      · cases isString
  | grouped inner innerText => exact innerText isString
  | negation operand => cases isString
  | attributed attributes inner innerText =>
      cases inner with
      | compound => cases isString
      | _ => exact innerText isString
  | compound => cases isString

/-- Of any other expression the source text is checked. -/
theorem checkedText_of_stringValue?_eq_none
    {expression : Expression}
    (noString : expression.stringValue? = none) :
    frontEnd.checkedText expression = frontEnd.sourceText expression := by
  induction expression with
  | literal written =>
      simp only [Expression.stringValue?] at noString
      split at noString
      · cases noString
      · case h_2 otherForm =>
          simp only [checkedText, sourceText]
  | grouped inner innerText => exact innerText noString
  | negation operand => rfl
  | attributed attributes inner innerText =>
      cases inner with
      | compound => rfl
      | _ => exact innerText noString
  | compound => rfl

/-- The tokens of the constructor call on an expression, if they can be read. -/
def emitted? (kind : Kind) (first : Expression) : Option Trees :=
  frontEnd.trees?
    (Expansion.render
      { kind := kind, literal := String.ofList (frontEnd.sourceText first) }).toList

/-- Only the first expression counts: it is rejected, or the constructor is called on it. -/
theorem expandExpressions_cons
    (kind : Kind)
    (first : Expression)
    (rest : List Expression) :
    frontEnd.expandExpressions kind (first :: rest) =
      match kind.check (String.ofList (frontEnd.checkedText first)) with
      | .error rejection => .error (.rejected rejection)
      | .ok () =>
          match frontEnd.emitted? kind first with
          | some trees => .ok trees
          | none => .error .malformed := by
  simp only [expandExpressions, Kind.expand, firstArgument, List.map_cons, emitted?]
  cases kind.check (String.ofList (frontEnd.checkedText first)) <;> rfl

variable {frontEnd}

/-- A stream that is one expression is read as this one argument. -/
theorem arguments?_of_expression?
    {trees : Trees}
    {first : Expression}
    (isThere : trees ≠ [])
    (read : frontEnd.expression? trees = some (first, [])) :
    frontEnd.arguments? trees = some [first] := by
  rw [arguments?, read]
  simp [isThere]

/-- Behind an expression and a comma the other arguments are read, if less of the stream is left. -/
theorem arguments?_of_afterComma?
    {trees rest behind : Trees}
    {first : Expression}
    (read : frontEnd.expression? trees = some (first, rest))
    (goesOn : rest ≠ [])
    (comma : frontEnd.afterComma? rest = some behind)
    (less : TokenTree.weightOfList behind < TokenTree.weightOfList trees) :
    frontEnd.arguments? trees = (frontEnd.arguments? behind).map (first :: ·) := by
  have isThere : trees ≠ [] := by
    rintro rfl
    exact absurd less (Nat.not_lt_zero _)
  rw [arguments?, read]
  cases rest with
  | nil => exact absurd rfl goesOn
  | cons => simp [isThere, comma, less]

/-- An invocation is expanded by the expressions that are read from its tokens. -/
theorem expandTrees_of_arguments?
    (kind : Kind)
    {trees : Trees}
    {arguments : List Expression}
    (read : frontEnd.arguments? trees = some arguments) :
    frontEnd.expandTrees kind trees = frontEnd.expandExpressions kind arguments := by
  rw [expandTrees, read]

/-- Tokens are emitted just where the first of the expressions passes the check. -/
theorem expandExpressions_eq_ok_iff
    {kind : Kind}
    {arguments : List Expression}
    {emitted : Trees} :
    frontEnd.expandExpressions kind arguments = .ok emitted ↔
      ∃ first rest,
        arguments = first :: rest ∧
          kind.check (String.ofList (frontEnd.checkedText first)) = .ok () ∧
          frontEnd.emitted? kind first = some emitted := by
  cases arguments with
  | nil => simp [expandExpressions, Kind.expand, firstArgument]
  | cons first rest =>
      simp only [expandExpressions_cons]
      cases checked : kind.check (String.ofList (frontEnd.checkedText first)) with
      | error rejection => simp [checked]
      | ok => cases emits : frontEnd.emitted? kind first <;> simp [checked, emits]

/-- An expression is rejected with just the rejection that its checked text is. -/
theorem expandExpressions_eq_rejected_iff
    {kind : Kind}
    {first : Expression}
    {rest : List Expression}
    {rejection : Rejection} :
    frontEnd.expandExpressions kind (first :: rest) = .error (.rejected rejection) ↔
      kind.check (String.ofList (frontEnd.checkedText first)) = .error rejection := by
  rw [expandExpressions_cons]
  cases kind.check (String.ofList (frontEnd.checkedText first)) with
  | error found => simp
  | ok => cases frontEnd.emitted? kind first <;> simp

end FrontEnd

end CheckedLiterals
