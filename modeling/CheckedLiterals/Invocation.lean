import CheckedLiterals.Expression.Parser
import CheckedLiterals.FrontEnd
import CheckedLiterals.Token.Lexer

namespace CheckedLiterals

/-!
# Invocations in source code

A front end that needs no compiler around it, for trying the macros on source code.  It cuts text
as the language does, writes tokens one blank apart, and reads the operators, calls, members,
casts, paths, tuples and arrays of the language.  It reads no expression with a body in braces or
that begins with a keyword, and no closure; an invocation on one of these is malformed for it.
-/

/-- A piece of source code: text, or pieces that were passed on as one. -/
inductive Fragment where
  | text (source : String)
  | group (fragments : List Fragment)
  deriving Repr

namespace Fragment

mutual

/-- The token trees of a piece of source code, if it has any. -/
def trees? : Fragment → Option Trees
  | .text source => Token.trees? source.toList
  | .group fragments => (treesOfList? fragments).map fun trees => [.group .invisible trees]

/-- The token trees of pieces of source code, if all have any. -/
def treesOfList? : List Fragment → Option Trees
  | [] => some []
  | fragment :: rest =>
      match fragment.trees?, treesOfList? rest with
      | some trees, some more => some (trees ++ more)
      | _, _ => none

end

end Fragment

/-- The front end that reads and writes source code by itself. -/
def FrontEnd.standalone : FrontEnd where
  expression? trees :=
    Expression.expression? (Expression.depthBound trees) trees
  afterComma? :=
    Trees.afterSymbol? [',']
  write :=
    TokenTree.textOfList
  lexemes? :=
    Token.lexemes?

/-- Expand an invocation in source code: the tokens that take its place. -/
def Kind.expandTrees (kind : Kind) (trees : Trees) : Except InvocationError Trees :=
  FrontEnd.standalone.expandTrees kind trees

end CheckedLiterals
