import CheckedLiterals.Binary.Shortest
import CheckedLiterals.Layout
import CheckedLiterals.Refined.Basic
import CheckedLiterals.Refined.Template
import CheckedLiterals.Text.Escape

namespace CheckedLiterals

/-!
# Values and refined values as text

Numbers follow their template's sign, width and padding.  A floating-point number
is written with the fewest digits that read back, or with as many places as the
template asks for.  A refined value reads like its value; for inspection it is
written as a record of the value and the name of its predicate.
-/

namespace Whole

variable {type : WholeType}

/-- A whole number as its template says; its precision has no say. -/
def write (template : Template) (number : Whole type) : List Char :=
  match template.style with
  | .inspectHex => template.padNumber (template.sign false) number.hex
  | _ => template.padNumber (template.sign (decide (number.value < 0))) number.digits

end Whole

namespace Binary

variable {format : Format}

/-- The magnitude of a number by a layout, or with a fixed number of places. -/
def magnitudeText (layout : Layout) (precision : Option Nat) : Binary format → List Char
  | .nan => "NaN".toList
  | .infinite _ => "inf".toList
  | .finite negative units represents =>
      match precision with
      | some places => Layout.writePlaces (fixed format negative units places) places
      | none => layout.write (shortest .up negative units represents)

/-- The sign of a number as its template says; what is not a number has none. -/
def signText (template : Template) : Binary format → List Char
  | .nan => []
  | number => template.sign number.isNegative

/-- A floating-point number as its template says. -/
def write (template : Template) (number : Binary format) : List Char :=
  let layout :=
    match template.style with
    | .display => Layout.plain
    | _ => Layout.inspected
  template.padNumber (number.signText template) (number.magnitudeText layout template.precision)

end Binary

namespace Text

/-- A text as its template says; for inspection it is quoted, and nothing else has a say. -/
def write (template : Template) (text : List Char) : List Char :=
  match template.style with
  | .display => template.padText text
  | _ => quote text

end Text

namespace Template

/-- A refined value of which the value is written as the template says. -/
def writeRefined (template : Template) (typeName : String) (value : List Char) : List Char :=
  match template.style with
  | .display => value
  | _ =>
      let predicate := Text.quote typeName.toList
      if template.onLines then
        "Refined \x7b\n    value: ".toList ++ value ++ ",\n    predicate: ".toList ++ predicate ++
          ",\n\x7d".toList
      else
        "Refined \x7b value: ".toList ++ value ++ ", predicate: ".toList ++ predicate ++
          " \x7d".toList

end Template

end CheckedLiterals
