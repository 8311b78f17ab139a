import CheckedLiterals.Text.Hexadecimal
import CheckedLiterals.Text.Scanner

namespace CheckedLiterals.Json

/-!
# JSON strings

Text between double quotes.  When it is written, quotes, backslashes and control
characters are escaped and nothing else is.  When it is read, a code point past
the first plane may be written as a pair of surrogates, and half a pair is
refused.
-/

open Text (Verdict scan)

/-- A control character by its code point. -/
def escapeControl (c : Char) : List Char :=
  let digits := Nat.toDigits 16 c.toNat
  '\\' :: 'u' :: (List.replicate (4 - digits.length) '0' ++ digits)

/-- A character as it is written between quotes. -/
def escape (c : Char) : List Char :=
  if c == '"' then ['\\', '"']
  else if c == '\\' then ['\\', '\\']
  else if c == '\x08' then ['\\', 'b']
  else if c == '\x0c' then ['\\', 'f']
  else if c == '\n' then ['\\', 'n']
  else if c == '\r' then ['\\', 'r']
  else if c == '\t' then ['\\', 't']
  else if c.toNat < 0x20 then escapeControl c
  else [c]

/-- A string. -/
def writeString (value : List Char) : List Char :=
  '"' :: (value.flatMap escape ++ ['"'])

/-- Whether a code unit is the first half of a pair of surrogates. -/
def isHighSurrogate (unit : Nat) : Bool :=
  decide (0xD800 ≤ unit) && decide (unit ≤ 0xDBFF)

/-- Whether a code unit is the second half of a pair of surrogates. -/
def isLowSurrogate (unit : Nat) : Bool :=
  decide (0xDC00 ≤ unit) && decide (unit ≤ 0xDFFF)

/-- The character that a pair of surrogates stands for. -/
def ofSurrogates (high low : Nat) : Char :=
  Char.ofNat (0x10000 + 0x400 * (high - 0xD800) + (low - 0xDC00))

/-- The character that an escape of one letter stands for. -/
def letter? : Char → Option Char
  | '"' => some '"'
  | '\\' => some '\\'
  | '/' => some '/'
  | 'b' => some '\x08'
  | 'f' => some '\x0c'
  | 'n' => some '\n'
  | 'r' => some '\r'
  | 't' => some '\t'
  | _ => none

/-- Where a string is being read; behind half a pair, with the half that was read. -/
inductive StringState where
  | plain
  | escape
  | unit (count value : Nat)
  | lowBackslash (high : Nat)
  | lowLetter (high : Nat)
  | lowUnit (high count value : Nat)
  deriving Repr, DecidableEq

namespace StringState

/-- What a complete code unit does. -/
def stepUnit (value : Nat) : Verdict StringState :=
  if isLowSurrogate value then .refuse
  else if isHighSurrogate value then .goOn (.lowBackslash value) []
  else .goOn .plain [Char.ofNat value]

/-- What a complete second half does. -/
def stepLowUnit (high value : Nat) : Verdict StringState :=
  if isLowSurrogate value then .goOn .plain [ofSurrogates high value] else .refuse

/-- Read one character of a string. -/
def step : StringState → Char → Verdict StringState
  | .plain, c =>
      if c == '"' then .complete
      else if c == '\\' then .goOn .escape []
      else if c.toNat < 0x20 then .refuse
      else .goOn .plain [c]
  | .escape, c =>
      match letter? c with
      | some character => .goOn .plain [character]
      | none => if c == 'u' then .goOn (.unit 0 0) [] else .refuse
  | .unit count value, c =>
      match Text.hexDigit? c with
      | some digit =>
          if count = 3 then
            stepUnit (16 * value + digit)
          else
            .goOn (.unit (count + 1) (16 * value + digit)) []
      | none => .refuse
  | .lowBackslash high, c => if c == '\\' then .goOn (.lowLetter high) [] else .refuse
  | .lowLetter high, c => if c == 'u' then .goOn (.lowUnit high 0 0) [] else .refuse
  | .lowUnit high count value, c =>
      match Text.hexDigit? c with
      | some digit =>
          if count = 3 then
            stepLowUnit high (16 * value + digit)
          else
            .goOn (.lowUnit high (count + 1) (16 * value + digit)) []
      | none => .refuse

end StringState

/-- Where a string is being passed over, whose code units need not pair up. -/
inductive SkipState where
  | plain
  | escape
  | unit (count : Nat)
  deriving Repr, DecidableEq

/-- Pass over one character of a string. -/
def SkipState.step : SkipState → Char → Verdict SkipState
  | .plain, c =>
      if c == '"' then .complete
      else if c == '\\' then .goOn .escape []
      else if c.toNat < 0x20 then .refuse
      else .goOn .plain []
  | .escape, c =>
      match letter? c with
      | some _ => .goOn .plain []
      | none => if c == 'u' then .goOn (.unit 0) [] else .refuse
  | .unit count, c =>
      match Text.hexDigit? c with
      | some _ => if count = 3 then .goOn .plain [] else .goOn (.unit (count + 1)) []
      | none => .refuse

/-- Read a string: its value and the rest. -/
def readString? : List Char → Option (List Char × List Char)
  | '"' :: rest => scan StringState.step .plain rest
  | _ => none

/-- Pass over a string: the rest. -/
def skipString? : List Char → Option (List Char)
  | '"' :: rest => (scan SkipState.step .plain rest).map Prod.snd
  | _ => none

end CheckedLiterals.Json
