import CheckedLiterals.Token.Number
import CheckedLiterals.Token.Quoted
import CheckedLiterals.Token.Tree

namespace CheckedLiterals.Token

/-!
# Literals in source text

The literal at the beginning of a text.  Quoted literals are told by the letters
in front of their quote; a literal of any form may carry a suffix.
-/

/-- The part of the text in front of the rest. -/
def spellingBefore (text rest : List Char) : List Char :=
  text.take (text.length - rest.length)

/-- The literal that reaches from the beginning of the text to the suffix behind `rest`. -/
def literalTo (form : LiteralForm) (text rest : List Char) : Literal × List Char :=
  let remaining := afterSuffix rest
  ({ form := form, spelling := spellingBefore text remaining }, remaining)

/-- A quoted literal whose value is kept. -/
def stringTo
    (text : List Char) :
    Option (List Char × List Char) → Option (Literal × List Char) :=
  Option.map fun (value, rest) => literalTo (.string value) text rest

/-- A quoted literal whose value is not kept. -/
def quotedTo
    (form : LiteralForm)
    (text : List Char) :
    Option (List Char × List Char) → Option (Literal × List Char) :=
  Option.map fun (_, rest) => literalTo form text rest

/-- The quoted literal at the beginning of the text. -/
def quoted? (text : List Char) : Option (Literal × List Char) :=
  match text with
  | '"' :: rest => stringTo text (cooked? .text rest)
  | 'r' :: rest => stringTo text (raw? .text rest)
  | 'b' :: '"' :: rest => quotedTo .byteString text (cooked? .bytes rest)
  | 'b' :: 'r' :: rest => quotedTo .byteString text (raw? .bytes rest)
  | 'b' :: '\'' :: rest => (single? .bytes rest).map (literalTo .byte text)
  | 'c' :: '"' :: rest => quotedTo .nulTerminated text (cooked? .withoutNul rest)
  | 'c' :: 'r' :: rest => quotedTo .nulTerminated text (raw? .withoutNul rest)
  | '\'' :: rest => (single? .text rest).map (literalTo .character text)
  | _ => none

/-- The number literal at the beginning of the text; a float goes before an integer. -/
def number? (text : List Char) : Option (Literal × List Char) :=
  match afterFloat? text with
  | some rest => some ({ form := .float, spelling := spellingBefore text rest }, rest)
  | none =>
      (afterInteger? text).map fun rest =>
        ({ form := .integer, spelling := spellingBefore text rest }, rest)

/-- The literal at the beginning of the text. -/
def literal? (text : List Char) : Option (Literal × List Char) :=
  match quoted? text with
  | some found => some found
  | none => number? text

end CheckedLiterals.Token
