import CheckedLiterals.Expansion
import CheckedLiterals.Expression.Basic
import CheckedLiterals.Text.Escape
import CheckedLiterals.Token.Lexeme

namespace CheckedLiterals

/-!
# Front ends and invocations

A macro is invoked on token trees, which have to be expressions with commas
between them.  The first expression is checked by its checked text; if it is
accepted, the constructor call on its source text is cut into tokens, and these
take the place of the invocation.

How an expression is read from tokens, how tokens are written as text and how
text is cut into tokens is up to the front end of the language, not to the macro.
So a front end is a parameter here, and may be any functions of these types; what
has to be known of them is said where something is proved.
-/

/-- What the macros take from the language around them. -/
structure FrontEnd where
  /-- The expression at the beginning of a stream, and the rest of the stream. -/
  expression? : Trees → Option (Expression × Trees)
  /-- The rest of a stream behind the comma at its beginning. -/
  afterComma? : Trees → Option Trees
  /-- The text of a stream. -/
  write : Trees → List Char
  /-- The lexemes of a text. -/
  lexemes? : List Char → Option (List Token.Lexeme)

/-- Why an invocation does not expand. -/
inductive InvocationError where
  | malformed
  | rejected (rejection : Rejection)
  deriving Repr, DecidableEq

namespace FrontEnd

variable (frontEnd : FrontEnd)

/--
Read a whole stream as expressions with commas between them; a comma may end it.  Reading goes
on only where less of the stream is left, which keeps a front end that takes nothing from being
asked forever.
-/
def arguments? (trees : Trees) : Option (List Expression) :=
  if trees.isEmpty then
    some []
  else
    match frontEnd.expression? trees with
    | none => none
    | some (first, []) => some [first]
    | some (first, rest) =>
        match frontEnd.afterComma? rest with
        | none => none
        | some behind =>
            if TokenTree.weightOfList behind < TokenTree.weightOfList trees then
              (arguments? behind).map (first :: ·)
            else
              none
termination_by TokenTree.weightOfList trees

/-- The token trees of a text, if it has any. -/
def trees? (text : List Char) : Option Trees :=
  (frontEnd.lexemes? text).bind Token.nest?

/--
The source text: literals as they are written, with a minus right in front if negated.  Of
attributes only those are written that stand in front of any other expression.
-/
def sourceText : Expression → List Char
  | .literal written => frontEnd.write [.literal written]
  | .grouped inner => sourceText inner
  | .negation operand => '-' :: sourceText operand
  | .attributed attributes (.compound _ tokens) => frontEnd.write (attributes ++ tokens)
  | .attributed _ inner => sourceText inner
  | .compound _ tokens => frontEnd.write tokens

/-- The text that is checked: of a string its quoted value, of all else the source text. -/
def checkedText : Expression → List Char
  | .literal written =>
      match written.form with
      | .string value => Text.quote value
      | _ => frontEnd.write [.literal written]
  | .grouped inner => checkedText inner
  | .attributed attributes (.compound _ tokens) => frontEnd.write (attributes ++ tokens)
  | .attributed _ inner => checkedText inner
  | .negation operand => '-' :: frontEnd.sourceText operand
  | .compound _ tokens => frontEnd.write tokens

/-- Expand arguments that have been read: the tokens that take the place of the invocation. -/
def expandExpressions
    (kind : Kind)
    (arguments : List Expression) :
    Except InvocationError Trees :=
  match kind.expand (arguments.map fun argument => String.ofList (frontEnd.checkedText argument)) with
  | .error rejection => .error (.rejected rejection)
  | .ok expansion =>
      let literal :=
        match arguments with
        | [] => expansion.literal
        | first :: _ => String.ofList (frontEnd.sourceText first)
      match frontEnd.trees? (Expansion.render { kind := kind, literal := literal }).toList with
      | some trees => .ok trees
      | none => .error .malformed

/-- Expand an invocation: the tokens that take its place. -/
def expandTrees (kind : Kind) (trees : Trees) : Except InvocationError Trees :=
  match frontEnd.arguments? trees with
  | none => .error .malformed
  | some arguments => frontEnd.expandExpressions kind arguments

end FrontEnd

end CheckedLiterals
