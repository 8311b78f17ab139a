namespace CheckedLiterals

/-!
# Templates

A template says how a value is put into text: for reading or for inspection, with
which sign, how wide, how padded and how precise.
-/

/-- For whom a value is written. -/
inductive Style where
  | display
  | inspect
  | inspectHex
  deriving Repr, DecidableEq

/-- On which side of a field the text stands. -/
inductive Alignment where
  | left
  | center
  | right
  deriving Repr, DecidableEq

/-- How a value is put into text. -/
structure Template where
  style : Style := .display
  onLines : Bool := false
  fill : Char := ' '
  alignment : Option Alignment := none
  plus : Bool := false
  zeros : Bool := false
  width : Nat := 0
  precision : Option Nat := none
  deriving Repr, DecidableEq

namespace Template

/-- The templates that are known, by the text between their braces. -/
def known : List (String × Template) :=
  [("", {}),
    (":+", { plus := true }),
    (":5", { width := 5 }),
    (":>12", { alignment := some .right, width := 12 }),
    (":<12", { alignment := some .left, width := 12 }),
    (":^12", { alignment := some .center, width := 12 }),
    (":*^13", { fill := '*', alignment := some .center, width := 13 }),
    (":012", { zeros := true, width := 12 }),
    (":+012", { plus := true, zeros := true, width := 12 }),
    (":.0", { precision := some 0 }),
    (":.2", { precision := some 2 }),
    (":.20", { precision := some 20 }),
    (":8.3", { width := 8, precision := some 3 }),
    (":<8.1", { alignment := some .left, width := 8, precision := some 1 }),
    (":+09.2", { plus := true, zeros := true, width := 9, precision := some 2 }),
    (":?", { style := .inspect }),
    (":#?", { style := .inspect, onLines := true }),
    (":+?", { style := .inspect, plus := true }),
    (":.1?", { style := .inspect, precision := some 1 }),
    (":08?", { style := .inspect, zeros := true, width := 8 }),
    (":x?", { style := .inspectHex })]

/-- The template that a text in braces stands for, if it is known. -/
def ofText? (text : String) : Option Template :=
  (known.find? fun entry => "\x7b" ++ entry.1 ++ "\x7d" == text).map Prod.snd

/-- Fill a field up around a text. -/
def pad
    (fill : Char)
    (alignment : Alignment)
    (width : Nat)
    (text : List Char) :
    List Char :=
  let missing := width - text.length
  let before :=
    match alignment with
    | .left => 0
    | .center => missing / 2
    | .right => missing
  List.replicate before fill ++ text ++ List.replicate (missing - before) fill

/-- Put a text into its field, on the left unless the template says otherwise. -/
def padText (template : Template) (text : List Char) : List Char :=
  let cut :=
    match template.precision with
    | some count => text.take count
    | none => text
  pad template.fill (template.alignment.getD .left) template.width cut

/-- Put a number into its field, on the right or with zeros between the sign and the digits. -/
def padNumber (template : Template) (sign digits : List Char) : List Char :=
  if template.zeros then
    sign ++ pad '0' .right (template.width - sign.length) digits
  else
    pad template.fill (template.alignment.getD .right) template.width (sign ++ digits)

/-- The sign of a number: a minus, or a plus if the template asks for it. -/
def sign (template : Template) (negative : Bool) : List Char :=
  if negative then ['-'] else if template.plus then ['+'] else []

end Template

end CheckedLiterals
