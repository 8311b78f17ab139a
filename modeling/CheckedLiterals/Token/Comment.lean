import CheckedLiterals.Text.Escape
import CheckedLiterals.Text.Scanner
import CheckedLiterals.Token.Tree

namespace CheckedLiterals.Token

/-!
# Comments

A comment reaches to the end of its line or, if it is enclosed, to the mark that
closes it, where enclosed comments nest.  Most comments count as blanks.  A
documentation comment stands for an attribute that holds its text.
-/

open Text (Verdict scan)

/-- The line at the beginning of a text, and the text from its end on. -/
def splitLine : List Char → List Char × List Char
  | [] => ([], [])
  | '\n' :: rest => ([], '\n' :: rest)
  | '\r' :: '\n' :: rest => ([], '\n' :: rest)
  | c :: rest =>
      let (line, remaining) := splitLine rest
      (c :: line, remaining)

/-- How deep an enclosed comment is nested, and whether half of a mark has been read. -/
inductive Nesting where
  | inside (depth : Nat)
  | slash (depth : Nat)
  | star (depth : Nat)
  deriving Repr, DecidableEq

namespace Nesting

/-- What a character does that completes no mark. -/
def stepPlain (depth : Nat) (c : Char) : Verdict Nesting :=
  if c == '/' then .goOn (.slash depth) [c]
  else if c == '*' then .goOn (.star depth) [c]
  else .goOn (.inside depth) [c]

/-- Read one character of an enclosed comment, at a depth beyond the first opening mark. -/
def step : Nesting → Char → Verdict Nesting
  | .inside depth, c => stepPlain depth c
  | .slash depth, c => if c == '*' then .goOn (.inside (depth + 1)) [c] else stepPlain depth c
  | .star depth, c =>
      if c == '/' then
        match depth with
        | 0 => .complete
        | depth + 1 => .goOn (.inside depth) [c]
      else
        stepPlain depth c

end Nesting

/-- The text of an enclosed comment behind its opening mark, and the text behind the comment. -/
def enclosed? (text : List Char) : Option (List Char × List Char) :=
  (scan Nesting.step (.inside 0) text).map fun (content, rest) => (content.dropLast, rest)

/-- The text behind a comment that counts as a blank, if the text begins with one. -/
def afterBlankComment? : List Char → Option (List Char)
  | '/' :: '/' :: '/' :: '/' :: rest => some (splitLine rest).2
  | '/' :: '/' :: '/' :: _ => none
  | '/' :: '/' :: '!' :: _ => none
  | '/' :: '/' :: rest => some (splitLine rest).2
  | '/' :: '*' :: '*' :: '/' :: rest => some rest
  | '/' :: '*' :: '*' :: '*' :: rest => (enclosed? ('*' :: '*' :: rest)).map Prod.snd
  | '/' :: '*' :: '*' :: _ => none
  | '/' :: '*' :: '!' :: _ => none
  | '/' :: '*' :: rest => (enclosed? rest).map Prod.snd
  | _ => none

/-- Whether a carriage return stands in the text without a line feed behind it. -/
def hasBareReturn : List Char → Bool
  | '\r' :: '\n' :: rest => hasBareReturn rest
  | '\r' :: _ => true
  | _ :: rest => hasBareReturn rest
  | [] => false

/-- A documentation comment: whether it is about what encloses it, its text, and the rest. -/
def documentation? : List Char → Option (Bool × List Char × List Char)
  | '/' :: '/' :: '!' :: rest => some (true, splitLine rest)
  | '/' :: '*' :: '!' :: rest =>
      (enclosed? ('!' :: rest)).map fun (content, remaining) => (true, content.drop 1, remaining)
  | '/' :: '/' :: '/' :: '/' :: _ => none
  | '/' :: '/' :: '/' :: rest => some (false, splitLine rest)
  | '/' :: '*' :: '*' :: '*' :: _ => none
  | '/' :: '*' :: '*' :: rest =>
      (enclosed? ('*' :: rest)).map fun (content, remaining) => (false, content.drop 1, remaining)
  | _ => none

/-- The text of a comment between quotes; before an octal digit a NUL is written in two digits. -/
def quoteDocumentation (text : List Char) : List Char :=
  '"' :: (go text ++ ['"'])
where
  go : List Char → List Char
    | [] => []
    | c :: rest =>
        (if c == '\x00' && rest.head?.any (fun next => '0' ≤ next && next ≤ '7') then
          ['\\', 'x', '0', '0']
        else
          Text.escape c) ++ go rest

/-- The attribute that a documentation comment stands for. -/
def documentationTrees (inner : Bool) (text : List Char) : List TokenTree :=
  let written : Literal := { form := .string text, spelling := quoteDocumentation text }
  let bracketed : TokenTree :=
    .group .bracket [.name "doc".toList, .mark '=' .alone, .literal written]
  if inner then
    [.mark '#' .alone, .mark '!' .alone, bracketed]
  else
    [.mark '#' .alone, bracketed]

end CheckedLiterals.Token
