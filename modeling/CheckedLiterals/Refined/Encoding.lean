import CheckedLiterals.Binary.Shortest
import CheckedLiterals.Json.Blank
import CheckedLiterals.Json.Number
import CheckedLiterals.Json.Text
import CheckedLiterals.Layout
import CheckedLiterals.Refined.Basic

namespace CheckedLiterals

/-!
# Refined values in JSON

A refined value is encoded as its bare value.  When it is decoded the predicate
is asked again, as soon as the value has been read and before anything behind it
is looked at.
-/

/-- Reads a value from the beginning of a text, and gives the rest. -/
abbrev Reader (Value : Type) := List Char → Option (Value × List Char)

/-- Why a text does not decode. -/
inductive DecodeError where
  | malformed
  | refused (message : String)
  deriving Repr, DecidableEq

/-- Reads a value from the beginning of a text as a reader does, or says why it cannot. -/
abbrev Decoder (Value : Type) := List Char → Except DecodeError (Value × List Char)

/-- Read a value that blanks may precede. -/
def Reader.decoder
    {Value : Type}
    (reader : Reader Value) :
    Decoder Value := fun text =>
  match reader (Json.skipBlank text) with
  | some found => .ok found
  | none => .error .malformed

/-- Decode a text that holds a value and nothing else but blanks. -/
def Decoder.document
    {Value : Type}
    (decoder : Decoder Value)
    (text : List Char) :
    Except DecodeError Value :=
  match decoder text with
  | .error failure => .error failure
  | .ok (value, rest) =>
      if (Json.skipBlank rest).isEmpty then .ok value else .error .malformed

namespace Whole

/-- Whether the digits of the type are read without regard to what follows them. -/
def isWide (type : WholeType) : Bool :=
  decide (64 < type.width)

/-- Read a number without fraction and exponent; a zero has no minus. -/
def readNarrow? (type : WholeType) : Reader (Whole type) := fun text =>
  match Json.readNumber? text with
  | some (number, rest) =>
      let magnitude := number.numeral.significand
      let value : Int := if number.numeral.negative then -magnitude else magnitude
      if !number.isWhole || (number.numeral.negative && magnitude == 0) then
        none
      else
        (ofInt? type value).map fun value => (value, rest)
  | none => none

/-- Read a sign and digits; a type without negative numbers takes no minus. -/
def readWide? (type : WholeType) : Reader (Whole type) := fun text =>
  match Json.readWhole? text with
  | some (negative, magnitude, rest) =>
      let value : Int := if negative then -magnitude else magnitude
      if negative && !type.isSigned then
        none
      else
        (ofInt? type value).map fun value => (value, rest)
  | none => none

/-- Read a number of the type. -/
def read? (type : WholeType) : Reader (Whole type) :=
  if isWide type then readWide? type else readNarrow? type

end Whole

namespace Binary

variable {format : Format}

/-- The layout of floating-point numbers in JSON. -/
def encodedLayout : Format → Layout
  | .binary32 => { positional := some (-6, 12), pointZero := true, exponentPlus := true }
  | .binary64 => { positional := some (-5, 15), pointZero := true, exponentPlus := true }

/-- A number in the fewest digits that read back; what is not finite has no number. -/
def encode : Binary format → List Char
  | .finite negative units represents =>
      (if negative then ['-'] else []) ++
        (encodedLayout format).write (shortest .even negative units represents)
  | _ => "null".toList

/--
Read a number, which has to be finite once it is rounded.  It is rounded correctly, as not every
reader of the format does; nothing that is proved of all formats rests on it.
-/
def read? (format : Format) : Reader (Binary format) := fun text =>
  match Json.readNumber? text with
  | some (number, rest) =>
      let value := ofNumeral format number.numeral
      if value.isFinite then some (value, rest) else none
  | none => none

end Binary

/-- Read a string. -/
def Text.read? : Reader String := fun text =>
  (Json.readString? text).map fun (value, rest) => (String.ofList value, rest)

/-- Read a refined value: a value that the predicate has to accept. -/
def Decoder.refined
    {Value : Type}
    (decoder : Decoder Value)
    (predicate : Predicate Value) :
    Decoder (Refined Value) :=
  Refined.deserialize .refused predicate decoder

namespace Refined

variable {Value : Type}

/-- Read a refined value, which the predicate has to accept. -/
def read
    (predicate : Predicate Value)
    (reader : Reader Value) :
    Decoder (Refined Value) :=
  reader.decoder.refined predicate

/-- Decode a text that holds a refined value and nothing else but blanks. -/
def decode
    (predicate : Predicate Value)
    (reader : Reader Value)
    (text : List Char) :
    Except DecodeError (Refined Value) :=
  (read predicate reader).document text

end Refined

end CheckedLiterals
