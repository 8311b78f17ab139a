import CheckedLiterals.FrontEnd

namespace CheckedLiterals

/-!
# What is known of front ends

The rules of the language that the macros rely on, each by itself: how literals and streams are
written, how the code around a literal is cut, and where one argument ends and the next begins.
A front end need not be known any further, and no rule speaks of macros.
-/

/-- Texts one after the other, with white space around them and between them at will. -/
inductive Spaced : List (List Char) → List Char → Prop where
  | nil : Spaced [] []
  | blank
      {pieces : List (List Char)}
      {c : Char}
      {text : List Char} :
      Text.isWhiteSpace c = true →
        Spaced pieces text →
        Spaced pieces (c :: text)
  | cons
      {pieces : List (List Char)}
      {text : List Char}
      (piece : List Char) :
      Spaced pieces text →
        Spaced (piece :: pieces) (piece ++ text)

namespace TokenTree

mutual

/-- The texts of the single tokens of a tree and of its visible delimiters, in order. -/
def pieces : TokenTree → List (List Char)
  | .name text => [text]
  | .mark symbol _ => [[symbol]]
  | .literal written => [written.spelling]
  | .group .parenthesis content => ['('] :: (piecesOfList content ++ [[')']])
  | .group .bracket content => ['['] :: (piecesOfList content ++ [[']']])
  | .group .brace content => ['\x7b'] :: (piecesOfList content ++ [['\x7d']])
  | .group .invisible content => piecesOfList content

/-- The texts of the single tokens of a stream and of its visible delimiters, in order. -/
def piecesOfList : List TokenTree → List (List Char)
  | [] => []
  | tree :: rest => tree.pieces ++ piecesOfList rest

end

end TokenTree

namespace Token

/-- The marks in a constructor call, and the sign of a number. -/
def callMarks : List Char :=
  [':', '<', '>', ',', '.', '|', '!', '-']

/-- Whether a text is a word of letters and underscores alone. -/
def IsPlainWord (word : List Char) : Prop :=
  word ≠ [] ∧ word.all (fun c => c.isAlpha || c == '_') = true

instance (word : List Char) : Decidable (IsPlainWord word) :=
  inferInstanceAs (Decidable (_ ∧ _))

/-- Whether a text begins with a mark or a parenthesis, so that no word goes on there. -/
def EndsPlainWord (text : List Char) : Prop :=
  ∃ c ∈ text.head?, c ∈ '(' :: callMarks

/-- Whether a text begins with a mark. -/
def StartsCallMark (text : List Char) : Prop :=
  ∃ c ∈ text.head?, c ∈ callMarks

/-- Whether a text begins with a word, a blank or a parenthesis. -/
def StartsApart (text : List Char) : Prop :=
  ∃ c ∈ text.head?, (c.isAlpha || c == '_' || c == ' ' || c == '(') = true

end Token

/-- Whether a literal is an integer or a floating-point number. -/
def Literal.isNumber (written : Literal) : Bool :=
  written.form == .integer || written.form == .float

/--
Whether a literal is told from a name or a number by its spelling: if it is no number, it is spelled
with a quote, or with the parenthesis of what could not be read.
-/
def Literal.IsToldApart (written : Literal) : Prop :=
  written.isNumber = false → ∃ c ∈ written.spelling, c ∈ ['"', '\'', '(']

/-- A text of letters and blanks between quotes. -/
def Literal.plain (content : List Char) : Literal where
  form :=
    .string content
  spelling :=
    '"' :: (content ++ ['"'])

namespace FrontEnd

variable (frontEnd : FrontEnd)

/-- Whether a literal alone is written as it is spelled. -/
def WritesLiterals : Prop :=
  ∀ written : Literal, frontEnd.write [.literal written] = written.spelling

/-- Whether tokens are written in order, with nothing but white space between them. -/
def WritesInOrder : Prop :=
  ∀ trees : Trees, Spaced (TokenTree.piecesOfList trees) (frontEnd.write trees)

/-- Whether a literal, put out by itself, is cut as the token that it is. -/
def IsToken (written : Literal) : Prop :=
  frontEnd.lexemes? written.spelling = some [.tree (.literal written)]

/--
Whether code is cut at sight, as far as it is needed for constructor calls: where a word, a mark or
a parenthesis begins, that is the next lexeme, and what is behind it is cut as if it stood alone.
Of two marks without a gap the first is joint.  A plain text between quotes is a token; no literal
begins with the slash of a comment, and a closing parenthesis ends each.
-/
structure CutsCalls : Prop where
  nothing :
    frontEnd.lexemes? [] = some []
  blank
    {text : List Char}
    {more : List Token.Lexeme} :
    frontEnd.lexemes? text = some more →
      frontEnd.lexemes? (' ' :: text) = some more
  word
    (word : List Char)
    {text : List Char}
    {more : List Token.Lexeme} :
    Token.IsPlainWord word →
      Token.EndsPlainWord text →
      frontEnd.lexemes? text = some more →
      frontEnd.lexemes? (word ++ text) = some (.tree (.name word) :: more)
  mark
    (symbol : Char)
    {text : List Char}
    {more : List Token.Lexeme} :
    symbol ∈ Token.callMarks →
      frontEnd.lexemes? text = some more →
      ∃ spacing,
        frontEnd.lexemes? (symbol :: text) = some (.tree (.mark symbol spacing) :: more) ∧
          (Token.StartsCallMark text → spacing = .joint) ∧
          (Token.StartsApart text → spacing = .alone)
  opening
    {text : List Char}
    {more : List Token.Lexeme} :
    text.head? ≠ some '/' →
      frontEnd.lexemes? text = some more →
      frontEnd.lexemes? ('(' :: text) = some (.opening .parenthesis :: more)
  closing
    {text : List Char}
    {more : List Token.Lexeme} :
    frontEnd.lexemes? text = some more →
      frontEnd.lexemes? (')' :: text) = some (.closing .parenthesis :: more)
  quoted
    (content : List Char) :
    content.all (fun c => c.isAlpha || c == ' ') = true →
      frontEnd.IsToken (.plain content)
  literal
    {written : Literal}
    {text : List Char}
    {more : List Token.Lexeme} :
    frontEnd.IsToken written →
      frontEnd.lexemes? (')' :: text) = some more →
      frontEnd.lexemes? (written.spelling ++ ')' :: text) =
        some (.tree (.literal written) :: more)
  noComment
    {written : Literal} :
    frontEnd.IsToken written →
      written.spelling.head? ≠ some '/'

/--
Whether arguments end at commas: an expression needs a token, and one that fills a stream is read
as far, and no farther, in front of a comma, since no expression goes on with one.
-/
structure EndsAtCommas : Prop where
  needsToken :
    frontEnd.expression? [] = none
  comma :
    ∀ spacing rest, frontEnd.afterComma? (.mark ',' spacing :: rest) = some rest
  inFront :
    ∀ trees expression spacing rest,
      frontEnd.expression? trees = some (expression, []) →
        frontEnd.expression? (trees ++ .mark ',' spacing :: rest) =
          some (expression, .mark ',' spacing :: rest)

/-- Whether less of a stream is left behind an expression and a comma than there was. -/
def LeavesLess : Prop :=
  ∀ trees expression rest behind,
    frontEnd.expression? trees = some (expression, rest) →
      frontEnd.afterComma? rest = some behind →
      TokenTree.weightOfList behind < TokenTree.weightOfList trees

end FrontEnd

end CheckedLiterals
