import CheckedLiterals.Proofs.Invocation.NonEmpty
import CheckedLiterals.Proofs.Invocation.Standalone
import CheckedLiterals.Proofs.LiteralNumber.Unreadable

namespace CheckedLiterals

/-!
# What the numeric kinds let pass

An expression is checked by its text, and the reader of numbers takes off more of a text than a
number holds.  So a numeric kind keeps to number literals just as far as the texts of other
expressions are not read as numbers.  Most are not, however tokens are written: a quote, a
delimiter, a mark other than a point or a sign, white space in between and a word at the beginning
are all seen.  What passes is an underscored name, and what a compiler writes without blanks
behind one.
-/

open LiteralNumber (Unreadable StartsWord isForeign isWordStart)
open Text (isWhiteSpace isIdentifierStart)
open TokenTree (piecesOfList)

namespace Spaced

/-- Nothing is left out. -/
theorem mem
    {pieces : List (List Char)}
    {text piece : List Char}
    {c : Char}
    (spaced : Spaced pieces text)
    (isPiece : piece ∈ pieces)
    (member : c ∈ piece) :
    c ∈ text := by
  induction spaced with
  | nil => cases isPiece
  | blank _ _ later => exact List.mem_cons_of_mem _ (later isPiece)
  | cons other _ later =>
      rcases List.mem_cons.mp isPiece with rfl | isOther
      · exact List.mem_append_left _ member
      · exact List.mem_append_right _ (later isOther)

/-- Nothing but white space is added. -/
theorem count
    {pieces : List (List Char)}
    {text : List Char}
    {c : Char}
    (spaced : Spaced pieces text)
    (solid : isWhiteSpace c = false) :
    text.count c = pieces.flatten.count c := by
  induction spaced with
  | nil => rfl
  | @blank _ d _ isBlank _ later =>
      have apart : d ≠ c := by
        rintro rfl
        rw [isBlank] at solid
        cases solid
      rw [List.count_cons_of_ne apart, later]
  | cons piece _ later => rw [List.flatten_cons, List.count_append, List.count_append, later]

/-- Where a word comes first, the text begins with it. -/
theorem startsWord
    {c : Char}
    {rest text : List Char}
    {others : List (List Char)}
    (spaced : Spaced ((c :: rest) :: others) text)
    (isStart : isWordStart c = true) :
    StartsWord text := by
  generalize shape : (c :: rest) :: others = pieces at spaced
  induction spaced with
  | nil => cases shape
  | blank isBlank _ later => exact (later shape).blank isBlank
  | cons piece =>
      cases shape
      exact .word _ isStart

end Spaced

/-- Identifiers begin with an underscore or like a word. -/
theorem LiteralNumber.isWordStart_of_isIdentifierStart
    {c : Char}
    (starts : isIdentifierStart c = true)
    (noUnderscore : c ≠ '_') :
    isWordStart c = true := by
  have notBlank := Text.not_blank_of_isIdentifierStart starts
  have apart : ∀ other : Char, isIdentifierStart other = false → c ≠ other := by
    rintro other none rfl
    rw [starts] at none
    cases none
  have notDigit := Text.not_digit_of_isIdentifierStart starts
  simp only [isWordStart, notDigit, notBlank, Bool.and_eq_true, bne_iff_ne, Bool.not_false,
    true_and, and_true]
  exact ⟨⟨⟨apart '.' (by decide), noUnderscore⟩, apart '+' (by decide)⟩, apart '-' (by decide)⟩

namespace Expression

/-- The tokens that an expression comes down to, through groups, minuses and attributes. -/
def compound? : Expression → Option Trees
  | .literal _ => none
  | .grouped inner => inner.compound?
  | .negation operand => operand.compound?
  | .attributed attributes (.compound _ tokens) => some (attributes ++ tokens)
  | .attributed _ inner => inner.compound?
  | .compound _ tokens => some tokens

/-- Whether an expression is an integer or a floating-point literal, in groups or negated or not. -/
def IsNumberLiteral (expression : Expression) : Prop :=
  ∃ written, expression.core? = some written ∧ written.isNumber = true

theorem IsNumberLiteral.stringValue?
    {expression : Expression}
    (isNumberLiteral : expression.IsNumberLiteral) :
    expression.stringValue? = none := by
  cases isString : expression.stringValue? with
  | none => rfl
  | some value =>
      obtain ⟨written, isCore, isNumber⟩ := isNumberLiteral
      obtain ⟨string, isString, form, _⟩ := exists_core?_of_stringValue? isString
      rw [isCore] at isString
      cases isString
      rw [Literal.isNumber, form] at isNumber
      cases isNumber

end Expression

namespace FrontEnd

/-- Whether the text of an expression is read as a number when it is checked. -/
def IsReadAsNumber (frontEnd : FrontEnd) (expression : Expression) : Prop :=
  LiteralNumber.parse? (String.ofList (frontEnd.checkedText expression)) ≠ none

/--
Whether an outcome is as it has to be for the arguments: tokens are emitted for a number literal
only, with the text that was checked, and every other expression is rejected as no number literal.
-/
def AdmitsOnlyLiterals
    (frontEnd : FrontEnd)
    (kind : Kind)
    (arguments : List Expression)
    (outcome : Except InvocationError Trees) :
    Prop :=
  (∀ emitted,
    outcome = .ok emitted →
      ∃ first rest,
        arguments = first :: rest ∧
          first.IsNumberLiteral ∧
          frontEnd.checkedText first = frontEnd.sourceText first ∧
          frontEnd.emitted? kind first = some emitted) ∧
    ∀ first rest,
      arguments = first :: rest →
        ¬first.IsNumberLiteral →
        outcome = .error (.rejected .notNumberLiteral)

/--
Whether tokens look like a number: they have no character that no number has, are written in one
piece, do not begin like a word, and hold one point at most.
-/
structure PassesForNumber (frontEnd : FrontEnd) (tokens : Trees) : Prop where
  known :
    ∀ piece ∈ piecesOfList tokens, ∀ c ∈ piece, isForeign c = false
  together :
    ∀ left blank right,
      [left, blank, right].Sublist (frontEnd.write tokens) →
        isWhiteSpace blank = true →
        isWhiteSpace left = true ∨ isWhiteSpace right = true
  start :
    ∀ c rest others, piecesOfList tokens = (c :: rest) :: others → isWordStart c = false
  points :
    (piecesOfList tokens).flatten.count '.' ≤ 1

/-- Of the marks of the language only signs and points are seen in numbers. -/
example : Token.marks.filter (fun c => !isForeign c) = ['-', '+', '.'] := by
  decide

variable {frontEnd : FrontEnd}

/-- A quoted text is no number, since it begins with a quote. -/
theorem unreadable_quote (text : List Char) : Unreadable (Text.quote text) :=
  .foreign List.mem_cons_self (by decide)

/-- Of what is not read as a number, a numeric kind says so. -/
theorem expandExpressions_eq_notNumberLiteral_iff
    {kind : Kind}
    (numeric : kind.isNumeric = true)
    (first : Expression)
    (rest : List Expression) :
    frontEnd.expandExpressions kind (first :: rest) = .error (.rejected .notNumberLiteral) ↔
      ¬frontEnd.IsReadAsNumber first := by
  rw [expandExpressions_eq_rejected_iff, Kind.check_eq_notNumberLiteral_iff numeric,
    IsReadAsNumber, Classical.not_not]

/-- A quoted value reads as no number, so every numeric kind rejects a string. -/
theorem expandExpressions_of_stringValue?
    {first : Expression}
    {value : List Char}
    (isString : first.stringValue? = some value)
    {kind : Kind}
    (numeric : kind.isNumeric = true)
    (rest : List Expression) :
    frontEnd.expandExpressions kind (first :: rest) = .error (.rejected .notNumberLiteral) := by
  rw [expandExpressions_eq_notNumberLiteral_iff numeric, IsReadAsNumber, Classical.not_not,
    frontEnd.checkedText_of_stringValue? isString]
  apply Unreadable.parse?_eq_none
  rw [String.toList_ofList]
  exact unreadable_quote value

theorem admitsOnlyLiterals_iff
    {kind : Kind}
    (numeric : kind.isNumeric = true)
    (arguments : List Expression) :
    frontEnd.AdmitsOnlyLiterals kind arguments (frontEnd.expandExpressions kind arguments) ↔
      ∀ first rest,
        arguments = first :: rest → first.IsNumberLiteral ∨ ¬frontEnd.IsReadAsNumber first := by
  constructor
  · rintro ⟨_, rejects⟩ first rest rfl
    refine Classical.or_iff_not_imp_left.mpr fun noLiteral => ?_
    exact (expandExpressions_eq_notNumberLiteral_iff numeric first rest).mp
      (rejects first rest rfl noLiteral)
  · intro told
    have rejects : ∀ first rest,
        arguments = first :: rest →
          ¬first.IsNumberLiteral →
          frontEnd.expandExpressions kind arguments = .error (.rejected .notNumberLiteral) := by
      rintro first rest rfl noLiteral
      exact (expandExpressions_eq_notNumberLiteral_iff numeric first rest).mpr
        ((told first rest rfl).resolve_left noLiteral)
    refine ⟨fun emitted emits => ?_, rejects⟩
    obtain ⟨first, rest, shape, _, put⟩ := expandExpressions_eq_ok_iff.mp emits
    have isNumber : first.IsNumberLiteral := by
      apply Classical.byContradiction
      intro noLiteral
      rw [rejects first rest shape noLiteral] at emits
      cases emits
    exact ⟨first, rest, shape, isNumber,
      checkedText_of_stringValue?_eq_none frontEnd isNumber.stringValue?, put⟩

/-- An expression is no number if what it comes down to is written as none. -/
theorem unreadable_of_core?
    {expression : Expression}
    (literals : ∀ written,
      expression.core? = some written → Unreadable (frontEnd.write [.literal written]))
    (compounds : ∀ tokens,
      expression.compound? = some tokens → Unreadable (frontEnd.write tokens)) :
    Unreadable (frontEnd.sourceText expression) ∧
      Unreadable (frontEnd.checkedText expression) := by
  induction expression with
  | literal written =>
      refine ⟨literals written rfl, ?_⟩
      rw [checkedText]
      split
      · exact unreadable_quote _
      · exact literals written rfl
  | grouped inner innerText => exact innerText literals compounds
  | negation operand operandText =>
      have unreadable := (operandText literals compounds).1.minus
      exact ⟨unreadable, unreadable⟩
  | attributed attributes inner innerText =>
      cases inner with
      | compound shape tokens => exact ⟨compounds _ rfl, compounds _ rfl⟩
      | _ => exact innerText literals compounds
  | compound shape tokens => exact ⟨compounds tokens rfl, compounds tokens rfl⟩

variable (writes : frontEnd.WritesInOrder)

include writes

/-- A literal that is no number is not written as one. -/
theorem unreadable_write_literal
    {written : Literal}
    (apart : written.IsToldApart)
    (noNumber : written.isNumber = false) :
    Unreadable (frontEnd.write [.literal written]) := by
  have foreign : ['"', '\'', '('].all isForeign = true := by decide
  obtain ⟨c, member, isMark⟩ := apart noNumber
  exact .foreign ((writes [.literal written]).mem List.mem_cons_self member)
    (List.all_eq_true.mp foreign c isMark)

/-- Tokens that are not written as what is never a number look like one. -/
theorem passesForNumber_of_not_unreadable
    {tokens : Trees}
    (readable : ¬Unreadable (frontEnd.write tokens)) :
    frontEnd.PassesForNumber tokens where
  known piece isPiece c member := by
    rw [Bool.eq_false_iff]
    exact fun foreign => readable (.foreign ((writes tokens).mem isPiece member) foreign)
  together left blank right sublist isBlank := by
    rw [← Decidable.not_not (p := _ ∨ _), not_or, Bool.not_eq_true, Bool.not_eq_true]
    exact fun ⟨leftSolid, rightSolid⟩ => readable (.parted sublist isBlank leftSolid rightSolid)
  start c rest others shape := by
    rw [Bool.eq_false_iff]
    intro isStart
    have spaced := writes tokens
    rw [shape] at spaced
    exact readable (.word (spaced.startsWord isStart))
  points := by
    rw [← (writes tokens).count (by decide)]
    exact Nat.le_of_not_lt fun two => readable (.points two)

/-- What is read as a number, but is no number literal, has tokens that look like a number. -/
theorem exists_compound?_of_isReadAsNumber
    {first : Expression}
    (apart : ∀ written, first.core? = some written → written.IsToldApart)
    (isRead : frontEnd.IsReadAsNumber first)
    (noLiteral : ¬first.IsNumberLiteral) :
    ∃ tokens, first.compound? = some tokens ∧ frontEnd.PassesForNumber tokens := by
  apply Classical.byContradiction
  intro unseen
  have literals : ∀ written,
      first.core? = some written → Unreadable (frontEnd.write [.literal written]) := by
    intro written isCore
    refine unreadable_write_literal writes (apart written isCore) ?_
    rw [Bool.eq_false_iff]
    exact fun isNumber => noLiteral ⟨written, isCore, isNumber⟩
  have compounds : ∀ tokens,
      first.compound? = some tokens → Unreadable (frontEnd.write tokens) := by
    intro tokens isCompound
    apply Classical.byContradiction
    exact fun readable =>
      unseen ⟨tokens, isCompound, passesForNumber_of_not_unreadable writes readable⟩
  refine isRead (Unreadable.parse?_eq_none ?_)
  rw [String.toList_ofList]
  exact (unreadable_of_core? literals compounds).2

omit writes

/-- A single name looks like a number only if it begins with an underscore. -/
theorem PassesForNumber.eq_underscore
    {c : Char}
    {rest : List Char}
    (passes : frontEnd.PassesForNumber [.name (c :: rest)])
    (starts : isIdentifierStart c = true) :
    c = '_' := by
  apply Classical.byContradiction
  intro noUnderscore
  have isStart := LiteralNumber.isWordStart_of_isIdentifierStart starts noUnderscore
  rw [passes.start c rest [] rfl] at isStart
  cases isStart

/--
Whatever the front end and the arguments are, a numeric kind emits the constructor call for number
literals only, on the text that it checked, and rejects all else as no number literal, just where
the first argument is a number literal or its text is not read as a number; so for every stream
that is read as arguments.

If a front end writes tokens in order, with white space where it likes, and literals that are no
numbers are told apart by their spelling, then the only other expressions whose texts are read as
numbers are those that come down to tokens which look like a number; a single name among them
begins with an underscore.
-/
theorem expandExpressions_numeric
    (frontEnd : FrontEnd)
    {kind : Kind}
    (numeric : kind.isNumeric = true) :
    (∀ arguments,
        frontEnd.AdmitsOnlyLiterals kind arguments (frontEnd.expandExpressions kind arguments) ↔
          ∀ first rest,
            arguments = first :: rest →
              first.IsNumberLiteral ∨ ¬frontEnd.IsReadAsNumber first) ∧
      (∀ trees arguments,
        frontEnd.arguments? trees = some arguments →
          (frontEnd.AdmitsOnlyLiterals kind arguments (frontEnd.expandTrees kind trees) ↔
            ∀ first rest,
              arguments = first :: rest →
                first.IsNumberLiteral ∨ ¬frontEnd.IsReadAsNumber first)) ∧
      (frontEnd.WritesInOrder →
        ∀ first : Expression,
          (∀ written, first.core? = some written → written.IsToldApart) →
            frontEnd.IsReadAsNumber first →
            ¬first.IsNumberLiteral →
            ∃ tokens,
              first.compound? = some tokens ∧
                frontEnd.PassesForNumber tokens ∧
                ∀ c rest,
                  tokens = [.name (c :: rest)] → isIdentifierStart c = true → c = '_') := by
  refine ⟨admitsOnlyLiterals_iff numeric, ?_, ?_⟩
  · intro trees arguments read
    rw [expandTrees_of_arguments? kind read]
    exact admitsOnlyLiterals_iff numeric arguments
  · intro writes first apart isRead noLiteral
    obtain ⟨tokens, isCompound, passes⟩ :=
      exists_compound?_of_isReadAsNumber writes apart isRead noLiteral
    refine ⟨tokens, isCompound, passes, ?_⟩
    rintro c rest rfl starts
    exact passes.eq_underscore starts

/-- A variable is rejected as no number literal, for its name has a letter that no number has. -/
theorem expandExpressions_numeric_variable :
    Kind.isNumeric .positive = true ∧
      standalone.WritesInOrder ∧
      standalone.arguments? [.name "abc".toList] =
        some [.compound .path [.name "abc".toList]] ∧
      standalone.expandTrees .positive [.name "abc".toList] =
        .error (.rejected .notNumberLiteral) := by
  have numeric : Kind.isNumeric .positive = true := rfl
  have writes := writesInOrder_standalone
  have read : standalone.arguments? [.name "abc".toList] =
      some [.compound .path [.name "abc".toList]] :=
    arguments?_of_expression? (by simp) rfl
  have noLiteral : ¬(Expression.compound .path [.name "abc".toList]).IsNumberLiteral := by
    rintro ⟨written, isCore, _⟩
    cases isCore
  obtain ⟨_, admits, looks⟩ := expandExpressions_numeric standalone numeric
  have notRead : ¬standalone.IsReadAsNumber (.compound .path [.name "abc".toList]) := by
    intro isRead
    have apart : ∀ written,
        (Expression.compound .path [.name "abc".toList]).core? = some written →
          written.IsToldApart := by
      intro written isCore
      cases isCore
    obtain ⟨tokens, isCompound, passes, _⟩ := looks writes _ apart isRead noLiteral
    cases isCompound
    have known := passes.known "abc".toList (by decide) 'a' (by decide)
    exact absurd known (by decide)
  refine ⟨numeric, writes, read, ((admits _ _ read).mpr ?_).2 _ _ rfl noLiteral⟩
  rintro first rest ⟨⟩
  exact .inr notRead

/-- A variable that is named like a number passes as a number literal. -/
theorem expandExpressions_numeric_underscored :
    Fragment.treesOfList? [.text "_1"] = some [.name "_1".toList] ∧
      (∃ emitted, Kind.expandTrees .positive [.name "_1".toList] = .ok emitted) ∧
      standalone.arguments? [.name "_1".toList] =
        some [.compound .path [.name "_1".toList]] ∧
      ¬(Expression.compound .path [.name "_1".toList]).IsNumberLiteral := by
  have read : standalone.arguments? [.name "_1".toList] =
      some [.compound .path [.name "_1".toList]] :=
    arguments?_of_expression? (by simp) rfl
  refine ⟨rfl, ?_, read, ?_⟩
  · rw [Kind.expandTrees, expandTrees_of_arguments? .positive read]
    exact exists_ok_of_toBool (by decide +kernel)
  · rintro ⟨written, isCore, _⟩
    cases isCore

end FrontEnd

end CheckedLiterals
