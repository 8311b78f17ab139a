import CheckedLiterals.Token.Comment
import CheckedLiterals.Token.Lexeme
import CheckedLiterals.Token.Literal

namespace CheckedLiterals.Token

/-!
# From source text to token trees

The text is cut into lexemes from left to right: blanks and comments are left
out, a literal goes before a mark and a mark before a name.  Then the delimiters
are matched, which turns the lexemes into trees.  Text that cannot be cut so, or
whose delimiters do not match, has no tokens at all.
-/

/-- Whether a character is a blank between tokens; two direction marks are. -/
def isBlank (c : Char) : Bool :=
  Text.isWhiteSpace c || c == '\u200e' || c == '\u200f'

/-- The characters that are punctuation marks. -/
def marks : List Char :=
  "~!@#$%^&*-=+|;:,<.>/?'".toList

/-- Whether the text begins with a mark, where the slash of a comment is none. -/
def startsMark : List Char → Bool
  | '/' :: '/' :: _ => false
  | '/' :: '*' :: _ => false
  | c :: _ => marks.contains c
  | [] => false

/-- The words that a raw identifier cannot be. -/
def wordsNeverRaw : List (List Char) :=
  ["_".toList, "super".toList, "self".toList, "Self".toList, "crate".toList]

/-- The identifier at the beginning of the text, raw or not, and the rest. -/
def identifier? (text : List Char) : Option (List Char × List Char) :=
  match text with
  | 'r' :: '#' :: word =>
      match afterIdentifier? word with
      | some rest =>
          if wordsNeverRaw.contains (spellingBefore word rest) then
            none
          else
            some (spellingBefore text rest, rest)
      | none => none
  | _ => (afterIdentifier? text).map fun rest => (spellingBefore text rest, rest)

/-- The openings of quoted literals, which no identifier begins with. -/
def quotedOpenings : List (List Char) :=
  ["r\"".toList, "r#\"".toList, "r##".toList, "b\"".toList, "b'".toList, "br\"".toList,
    "br#".toList, "c\"".toList, "cr\"".toList, "cr#".toList]

/-- The name at the beginning of the text, and the rest. -/
def name? (text : List Char) : Option (List Char × List Char) :=
  if quotedOpenings.any (·.isPrefixOf text) then none else identifier? text

/-- Whether a quote may be the mark in front of the identifier that the text begins with. -/
def isLifetime (text : List Char) : Bool :=
  match identifier? text with
  | some (_, '\'' :: _) => false
  | some (_, '#' :: _) => "r#".toList.isPrefixOf text
  | some _ => true
  | none => false

/-- The mark at the beginning of the text, and the rest. -/
def mark? (text : List Char) : Option (TokenTree × List Char) :=
  match text with
  | c :: rest =>
      if !startsMark text then
        none
      else if c == '\'' then
        if isLifetime rest then some (.mark c .joint, rest) else none
      else
        some (.mark c (if startsMark rest then .joint else .alone), rest)
  | [] => none

/-- How a literal that could not be read is spelled. -/
def unreadableSpelling : List Char :=
  "(/*ERROR*/)".toList

/-- The literal that stands for one that could not be read. -/
def unreadableLiteral : Literal :=
  { form := .unreadable, spelling := unreadableSpelling }

/-- The single token at the beginning of the text, and the rest. -/
def leaf? (text : List Char) : Option (TokenTree × List Char) :=
  match literal? text with
  | some (literal, rest) => some (.literal literal, rest)
  | none =>
      match mark? text with
      | some found => some found
      | none => (name? text).map fun (name, rest) => (.name name, rest)

/-- The delimiter that a character is, if it is one. -/
def delimiter? : Char → Option Lexeme
  | '(' => some (.opening .parenthesis)
  | ')' => some (.closing .parenthesis)
  | '[' => some (.opening .bracket)
  | ']' => some (.closing .bracket)
  | '\x7b' => some (.opening .brace)
  | '\x7d' => some (.closing .brace)
  | _ => none

/-- The documentation comment at the beginning of the text as lexemes, and the rest. -/
def documentationLexemes? (text : List Char) : Option (List Lexeme × List Char) :=
  match documentation? text with
  | some (inner, content, rest) =>
      if hasBareReturn content then
        none
      else
        some ((documentationTrees inner content).map .tree, rest)
  | none => none

/-- The lexeme that begins with the character, and the rest. -/
def lexeme? (c : Char) (rest : List Char) : Option (List Lexeme × List Char) :=
  if unreadableSpelling.isPrefixOf (c :: rest) then
    some ([.tree (.literal unreadableLiteral)], (c :: rest).drop unreadableSpelling.length)
  else
    match delimiter? c with
    | some found => some ([found], rest)
    | none => (leaf? (c :: rest)).map fun (tree, remaining) => ([.tree tree], remaining)

/-- The lexemes that begin with the character, none for a blank, and the rest. -/
def step? (c : Char) (rest : List Char) : Option (List Lexeme × List Char) :=
  match afterBlankComment? (c :: rest) with
  | some remaining => some ([], remaining)
  | none =>
      if isBlank c then
        some ([], rest)
      else
        match documentationLexemes? (c :: rest) with
        | some found => some found
        | none => lexeme? c rest

/-- The lexemes of a text, within a number of steps. -/
def lexemesWithin : Nat → List Char → Option (List Lexeme)
  | _, [] => some []
  | 0, _ :: _ => none
  | steps + 1, c :: rest =>
      match step? c rest with
      | some (found, remaining) => (lexemesWithin steps remaining).map (found ++ ·)
      | none => none

/-- The lexemes of a text; every step takes at least one character. -/
def lexemes? (text : List Char) : Option (List Lexeme) :=
  lexemesWithin text.length text

/-- The text without the mark that may tell the order of bytes at its beginning. -/
def withoutByteOrderMark : List Char → List Char
  | '\ufeff' :: rest => rest
  | text => text

/-- The token trees of a source text, if it has any. -/
def trees? (text : List Char) : Option (List TokenTree) :=
  (lexemes? (withoutByteOrderMark text)).bind nest?

end CheckedLiterals.Token
