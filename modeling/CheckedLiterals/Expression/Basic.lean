import CheckedLiterals.Token.Tree

namespace CheckedLiterals

/-!
# Expressions

An expression as far as checking a literal needs it.  Literals, invisible groups
and negations keep their form; of every other expression the tokens are kept, as
they are put out again, and what decides how it may go on.  Put out again, the
marks of one operator are joint and every operator stands alone.
-/

/-- What a compound expression is, as far as it decides which tokens may follow it. -/
inductive Shape where
  | path
  | comparison
  | range
  | other
  deriving Repr, DecidableEq

/-- An expression; attributes stand in front of what they are about. -/
inductive Expression where
  | literal (written : Literal)
  | grouped (inner : Expression)
  | negation (operand : Expression)
  | attributed (attributes : List TokenTree) (inner : Expression)
  | compound (shape : Shape) (tokens : List TokenTree)
  deriving Repr

/-- The marks of one operator, joint but for the last. -/
def operatorMarks : List Char → List TokenTree
  | [] => []
  | [last] => [.mark last .alone]
  | first :: second :: rest => .mark first .joint :: operatorMarks (second :: rest)

namespace Expression

/-- The tokens of an expression; an invisible group puts out its content alone. -/
def tokens : Expression → List TokenTree
  | .literal written => [.literal written]
  | .grouped inner => inner.tokens
  | .negation operand => .mark '-' .alone :: operand.tokens
  | .attributed attributes inner => attributes ++ inner.tokens
  | .compound _ tokens => tokens

/-- Whether the expression is a range, behind which no operator can follow. -/
def isRange : Expression → Bool
  | .compound .range _ => true
  | _ => false

/-- Whether the expression is a comparison, with which no other comparison can be chained. -/
def isComparison : Expression → Bool
  | .compound .comparison _ => true
  | _ => false

end Expression

end CheckedLiterals
