import CheckedLiterals.Text.Identifier

namespace CheckedLiterals.Token

/-!
# Number literals

How far an integer or a floating-point literal goes.  Each function takes the
text from the first digit on and gives what remains behind the literal, its
suffix included.
-/

/-- Whether a character may stand among the digits of a decimal literal. -/
def isDigitOrUnderscore (c : Char) : Bool :=
  c.isDigit || c == '_'

/-- Whether the text begins like an identifier. -/
def startsIdentifier : List Char → Bool
  | c :: _ => Text.isIdentifierStart c
  | [] => false

/-- The text behind the identifier at its beginning, if there is one. -/
def afterIdentifier? : List Char → Option (List Char)
  | c :: rest =>
      if Text.isIdentifierStart c then
        some (rest.dropWhile Text.isIdentifierContinue)
      else
        none
  | [] => none

/-- The text behind an optional suffix, which is an identifier. -/
def afterSuffix (text : List Char) : List Char :=
  (afterIdentifier? text).getD text

/-- The text behind the suffix of a number; the number has to end where a word ends. -/
def afterNumberSuffix? (text : List Char) : Option (List Char) :=
  match afterSuffix text with
  | c :: rest => if Text.isIdentifierContinue c then none else some (c :: rest)
  | [] => some []

/-- The text behind an exponent's sign and digits, of which there has to be one. -/
def afterExponent? (text : List Char) : Option (List Char) :=
  let unsigned :=
    match text.dropWhile (· == '_') with
    | '+' :: rest => rest
    | '-' :: rest => rest
    | rest => rest
  match unsigned.dropWhile (· == '_') with
  | c :: rest => if c.isDigit then some (rest.dropWhile isDigitOrUnderscore) else none
  | [] => none

/-- Whether a character marks an exponent. -/
def isExponentMark (c : Char) : Bool :=
  c == 'e' || c == 'E'

/-- The text behind the digits behind a point and an exponent, if the exponent is well formed. -/
def afterFraction (text : List Char) : List Char :=
  match text.dropWhile isDigitOrUnderscore with
  | c :: rest =>
      if isExponentMark c then (afterExponent? rest).getD (c :: rest) else c :: rest
  | [] => []

/-- The text behind the digits of a floating-point literal, which has a point or an exponent. -/
def afterFloatDigits? (text : List Char) : Option (List Char) :=
  match text.dropWhile isDigitOrUnderscore with
  | '.' :: rest =>
      if rest.head? == some '.' || startsIdentifier rest then none else some (afterFraction rest)
  | c :: rest => if isExponentMark c then afterExponent? rest else none
  | [] => none

/-- The text behind a floating-point literal. -/
def afterFloat? (text : List Char) : Option (List Char) :=
  if text.head?.any Char.isDigit then
    (afterFloatDigits? text).bind afterNumberSuffix?
  else
    none

/-- Whether a character stands among the digits of an integer literal with the base. -/
def isDigitPart (base : Nat) (c : Char) : Bool :=
  isDigitOrUnderscore c || (base == 16 && (('a' ≤ c && c ≤ 'f') || ('A' ≤ c && c ≤ 'F')))

/-- Whether a decimal digit is too large for the base. -/
def exceedsBase (base : Nat) (c : Char) : Bool :=
  c.isDigit && decide ('0'.toNat + base ≤ c.toNat)

/-- The text behind digits of the base, of which there has to be one that is no underscore. -/
def afterDigits? (base : Nat) (text : List Char) : Option (List Char) :=
  let digits := text.takeWhile (isDigitPart base)
  if digits.all (· == '_') || digits.any (exceedsBase base) then
    none
  else
    some (text.dropWhile (isDigitPart base))

/-- The text behind the digits of an integer literal, which may name its base in front. -/
def afterIntegerDigits? : List Char → Option (List Char)
  | '0' :: 'x' :: rest => afterDigits? 16 rest
  | '0' :: 'o' :: rest => afterDigits? 8 rest
  | '0' :: 'b' :: rest => afterDigits? 2 rest
  | text => if text.head?.any Char.isDigit then afterDigits? 10 text else none

/-- The text behind an integer literal. -/
def afterInteger? (text : List Char) : Option (List Char) :=
  (afterIntegerDigits? text).bind afterNumberSuffix?

end CheckedLiterals.Token
