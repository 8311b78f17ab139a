namespace CheckedLiterals.Json

/-!
# Blanks in JSON

The four characters that may stand between the tokens of a JSON text.
-/

/-- Whether the character may stand between tokens. -/
def isBlank (c : Char) : Bool :=
  c == ' ' || c == '\t' || c == '\n' || c == '\r'

/-- The text without the blanks at its beginning. -/
def skipBlank (text : List Char) : List Char :=
  text.dropWhile isBlank

/-- The text behind a character that blanks may precede. -/
def afterChar? (c : Char) (text : List Char) : Option (List Char) :=
  match skipBlank text with
  | first :: rest => if first = c then some rest else none
  | [] => none

end CheckedLiterals.Json
