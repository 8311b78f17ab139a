namespace CheckedLiterals

/-!
# Token trees

Source code as tokens: names, punctuation marks, literals, and groups of tokens
between delimiters.  A group may have invisible delimiters; it then keeps tokens
together that were passed on as one piece.  A mark is joint if another mark
follows it without a gap, so that the two may form one operator.
-/

/-- What encloses a group of tokens. -/
inductive Delimiter where
  | parenthesis
  | bracket
  | brace
  | invisible
  deriving Repr, DecidableEq

/-- Whether a punctuation mark is followed by another one without a gap. -/
inductive Spacing where
  | alone
  | joint
  deriving Repr, DecidableEq

/-- What a literal denotes; a string, raw or not, has a value. -/
inductive LiteralForm where
  | string (value : List Char)
  | byteString
  | nulTerminated
  | byte
  | character
  | integer
  | float
  | unreadable
  deriving Repr, DecidableEq

/-- A literal with its spelling, quotes and suffix included. -/
structure Literal where
  form : LiteralForm
  spelling : List Char
  deriving Repr, DecidableEq

/-- One token, or a group of tokens. -/
inductive TokenTree where
  | name (text : List Char)
  | mark (symbol : Char) (spacing : Spacing)
  | literal (written : Literal)
  | group (delimiter : Delimiter) (content : List TokenTree)
  deriving Repr

/-- A stream of token trees. -/
abbrev Trees := List TokenTree

namespace Delimiter

/-- What is written in front of a group's content. -/
def opening : Delimiter → List Char
  | .parenthesis => ['(']
  | .bracket => ['[']
  | .brace => ['\x7b', ' ']
  | .invisible => []

/-- What is written behind a group's content. -/
def closing (delimiter : Delimiter) (contentEmpty : Bool) : List Char :=
  match delimiter with
  | .parenthesis => [')']
  | .bracket => [']']
  | .brace => if contentEmpty then ['\x7d'] else [' ', '\x7d']
  | .invisible => []

end Delimiter

namespace TokenTree

/-- Whether the next token is written right behind this one. -/
def isJoint : TokenTree → Bool
  | .mark _ .joint => true
  | _ => false

mutual

/-- The text of a token or of a group. -/
def text : TokenTree → List Char
  | .name text => text
  | .mark symbol _ => [symbol]
  | .literal written => written.spelling
  | .group delimiter content =>
      delimiter.opening ++ textOfList content ++ delimiter.closing content.isEmpty

/--
The text of tokens, one blank apart, but for what follows a joint mark.  This is one way to write
tokens; a compiler may write fewer blanks, or none.
-/
def textOfList : List TokenTree → List Char
  | [] => []
  | tree :: rest =>
      tree.text ++
        (match rest with
        | [] => []
        | next :: others =>
            (if tree.isJoint then [] else [' ']) ++ textOfList (next :: others))

end

mutual

/-- How many tokens there are, with two more for every pair of delimiters. -/
def weight : TokenTree → Nat
  | .group _ content => weightOfList content + 2
  | _ => 1

/-- How many tokens a list holds, with two more for every pair of delimiters. -/
def weightOfList : List TokenTree → Nat
  | [] => 0
  | tree :: rest => tree.weight + weightOfList rest

end

end TokenTree

end CheckedLiterals
