import CheckedLiterals.Token.Tree

namespace CheckedLiterals.Token

/-!
# Lexemes

Source text is a row of lexemes: tokens, and the two delimiters of every group.
Matching the delimiters turns the row into trees; a row in which they do not match
has none.
-/

/-- A piece of source text: a finished tree, or one of the two delimiters of a group. -/
inductive Lexeme where
  | tree (tree : TokenTree)
  | opening (delimiter : Delimiter)
  | closing (delimiter : Delimiter)
  deriving Repr

/-- A group whose closing delimiter is still to come, with what stood in front of it. -/
structure OpenGroup where
  delimiter : Delimiter
  before : List TokenTree
  deriving Repr

/-- Match the delimiters; the trees read so far are held back to front. -/
def nestWithin :
    List OpenGroup →
      List TokenTree →
      List Lexeme →
      Option (List TokenTree)
  | [], read, [] => some read.reverse
  | _ :: _, _, [] => none
  | groups, read, .tree tree :: rest => nestWithin groups (tree :: read) rest
  | groups, read, .opening delimiter :: rest =>
      nestWithin ({ delimiter := delimiter, before := read } :: groups) [] rest
  | [], _, .closing _ :: _ => none
  | group :: groups, read, .closing delimiter :: rest =>
      if group.delimiter = delimiter then
        nestWithin groups (.group delimiter read.reverse :: group.before) rest
      else
        none

/-- The token trees of lexemes whose delimiters match. -/
def nest? (lexemes : List Lexeme) : Option (List TokenTree) :=
  nestWithin [] [] lexemes

end CheckedLiterals.Token
