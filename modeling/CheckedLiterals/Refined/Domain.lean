import CheckedLiterals.Binary.Bits
import CheckedLiterals.Binary.Decimal
import CheckedLiterals.Refined.Encoding
import CheckedLiterals.Refined.Text
import CheckedLiterals.Text.WhiteSpace

namespace CheckedLiterals

/-!
# Domains of values

What can be done with the values of a type that may be refined: they are read
from text and shown, compared, changed, written by a template, and encoded.  Not
every type has every change, a total order, or a decoder.
-/

/-- A change of a value, some of which take a second value. -/
inductive Change where
  | add
  | sub
  | mul
  | neg
  | set
  | trim
  deriving Repr, DecidableEq

namespace Change

/-- The change with a name. -/
def ofName? : String → Option Change
  | "add" => some .add
  | "sub" => some .sub
  | "mul" => some .mul
  | "neg" => some .neg
  | "set" => some .set
  | "trim" => some .trim
  | _ => none

end Change

/-- The types whose values can be refined. -/
class Domain (Value : Type) where
  /-- The value that a text stands for. -/
  ofText? : String → Option Value
  /-- The value as answers show it. -/
  shown : Value → String
  /-- The order of two values, if they have one. -/
  compare? : Value → Value → Option Ordering
  /-- Whether any two values have an order, so that values can be sorted and counted. -/
  isTotal : Bool
  /-- The function that a change applies, given the second value if there is one. -/
  change? : Change → Option Value → Option (Value → Value)
  /-- The value as a template says. -/
  write : Template → Value → List Char
  /-- The value in JSON. -/
  encode : Value → List Char
  /-- How the value is read from JSON, if it can be. -/
  reader? : Option (Reader Value)

instance {type : WholeType} : Domain (Whole type) where
  ofText? :=
    Whole.ofText? type
  shown number :=
    String.ofList number.text
  compare? left right :=
    some (compare left.value right.value)
  isTotal :=
    true
  change?
    | .add, some other => some (·.add other)
    | .sub, some other => some (·.sub other)
    | .mul, some other => some (·.mul other)
    | .set, some other => some fun _ => other
    | .neg, _ => some Whole.neg
    | _, _ => none
  write :=
    Whole.write
  encode :=
    Whole.text
  reader? :=
    some (Whole.read? type)

instance {format : Binary.Format} : Domain (Binary format) where
  ofText? :=
    Binary.ofText? format
  shown :=
    Binary.hex
  compare? :=
    Binary.compare?
  isTotal :=
    false
  change?
    | .add, some other => some (·.add other)
    | .sub, some other => some (·.sub other)
    | .mul, some other => some (·.mul other)
    | .set, some other => some fun _ => other
    | .neg, _ => some Binary.neg
    | _, _ => none
  write :=
    Binary.write
  encode :=
    Binary.encode
  reader? :=
    some (Binary.read? format)

/-- A text that is lent out and so can neither grow nor be decoded. -/
structure Slice where
  text : String
  deriving Repr, DecidableEq

namespace Text

/-- The order of two texts by their characters, which is the order of their encodings in bytes. -/
def order (left right : List Char) : Ordering :=
  if left = right then .eq else if left < right then .lt else .gt

/-- A text without the white space at its two ends. -/
def trimmed (text : String) : String :=
  String.ofList (trim text.toList)

end Text

instance : Domain String where
  ofText? :=
    some
  shown :=
    id
  compare? left right :=
    some (Text.order left.toList right.toList)
  isTotal :=
    true
  change?
    | .add, some other => some (· ++ other)
    | .set, some other => some fun _ => other
    | .trim, _ => some Text.trimmed
    | _, _ => none
  write template text :=
    Text.write template text.toList
  encode text :=
    Json.writeString text.toList
  reader? :=
    some Text.read?

instance : Domain Slice where
  ofText? text :=
    some ⟨text⟩
  shown :=
    Slice.text
  compare? left right :=
    some (Text.order left.text.toList right.text.toList)
  isTotal :=
    true
  change?
    | .set, some other => some fun _ => other
    | .trim, _ => some fun slice => ⟨Text.trimmed slice.text⟩
    | _, _ => none
  write template slice :=
    Text.write template slice.text.toList
  encode slice :=
    Json.writeString slice.text.toList
  reader? :=
    none

end CheckedLiterals
