import CheckedLiterals.Text.Hexadecimal
import CheckedLiterals.Text.Scanner
import CheckedLiterals.Text.WhiteSpace

namespace CheckedLiterals.Token

/-!
# Quoted literals

Scanners for what stands between quotes: text with escapes, raw text up to a
quote with enough number signs, and a single character.  Each begins behind the
opening quote and is complete with the closing one.
-/

open Text (Verdict scan)

/-- Which characters a quoted literal may hold. -/
inductive Alphabet where
  | text
  | bytes
  | withoutNul
  deriving Repr, DecidableEq

namespace Alphabet

/-- Whether the character may stand in the literal as it is. -/
def allows : Alphabet → Char → Bool
  | .text, _ => true
  | .bytes, c => decide (c.toNat < 0x80)
  | .withoutNul, c => c != '\x00'

end Alphabet

/-- How far an escape has been read. -/
inductive Escape where
  | start
  | hexHigh
  | hexLow (high : Nat)
  | brace
  | code (count value : Nat)
  deriving Repr, DecidableEq

namespace Escape

/-- The character that an escape of one letter stands for. -/
def letter? (alphabet : Alphabet) (c : Char) : Option Char :=
  match c with
  | 'n' => some '\n'
  | 'r' => some '\r'
  | 't' => some '\t'
  | '\\' => some '\\'
  | '\'' => some '\''
  | '"' => some '"'
  | '0' => if alphabet = .withoutNul then none else some '\x00'
  | _ => none

/-- What an escape comes to after one more character. -/
inductive Progress where
  | goOn (state : Escape)
  | finished (character : Char)
  | refuse
  deriving Repr, DecidableEq

/-- Read the first of two hexadecimal digits; a character of text is below 128. -/
def highDigit (alphabet : Alphabet) (c : Char) : Progress :=
  match Text.hexDigit? c with
  | some value =>
      if alphabet = .text && 8 ≤ value then .refuse else .goOn (.hexLow value)
  | none => .refuse

/-- Read the second of two hexadecimal digits. -/
def lowDigit (alphabet : Alphabet) (high : Nat) (c : Char) : Progress :=
  match Text.hexDigit? c with
  | some value =>
      if alphabet = .withoutNul && high == 0 && value == 0 then
        .refuse
      else
        .finished (Char.ofNat (16 * high + value))
  | none => .refuse

/-- Read a code point of up to six digits, with underscores behind the first, to the brace. -/
def codeDigit (alphabet : Alphabet) (count value : Nat) (c : Char) : Progress :=
  match Text.hexDigit? c with
  | some digit =>
      if count = 6 then .refuse else .goOn (.code (count + 1) (16 * value + digit))
  | none =>
      if count = 0 then
        .refuse
      else if c == '_' then
        .goOn (.code count value)
      else if c == '\x7d' then
        match Text.character? value with
        | some character =>
            if alphabet = .withoutNul && value == 0 then .refuse else .finished character
        | none => .refuse
      else
        .refuse

/-- Read one character of an escape behind its backslash. -/
def step (alphabet : Alphabet) : Escape → Char → Progress
  | .start, c =>
      match letter? alphabet c with
      | some character => .finished character
      | none =>
          if c == 'x' then .goOn .hexHigh
          else if c == 'u' && alphabet != .bytes then .goOn .brace
          else .refuse
  | .hexHigh, c => highDigit alphabet c
  | .hexLow high, c => lowDigit alphabet high c
  | .brace, c => if c == '\x7b' then .goOn (.code 0 0) else .refuse
  | .code count value, c => codeDigit alphabet count value c

end Escape

/-- Where a text with escapes is being read. -/
inductive Cooked where
  | plain
  | carriageReturn
  | escape (state : Escape)
  | continuation
  | continuationReturn
  deriving Repr, DecidableEq

namespace Cooked

/-- Read a character that no escape and no line end precedes. -/
def stepPlain (alphabet : Alphabet) (c : Char) : Verdict Cooked :=
  if c == '"' then .complete
  else if c == '\r' then .goOn .carriageReturn []
  else if c == '\\' then .goOn (.escape .start) []
  else if alphabet.allows c then .goOn .plain [c]
  else .refuse

/-- Read a character of an escape; a line end behind the backslash joins two lines. -/
def stepEscape (alphabet : Alphabet) (state : Escape) (c : Char) : Verdict Cooked :=
  if state = .start && c == '\n' then .goOn .continuation []
  else if state = .start && c == '\r' then .goOn .continuationReturn []
  else
    match state.step alphabet c with
    | .goOn next => .goOn (.escape next) []
    | .finished character => .goOn .plain [character]
    | .refuse => .refuse

/-- Read one character; where lines are joined, the white space that follows is left out. -/
def step (alphabet : Alphabet) : Cooked → Char → Verdict Cooked
  | .plain, c => stepPlain alphabet c
  | .carriageReturn, c => if c == '\n' then .goOn .plain ['\n'] else .refuse
  | .escape state, c => stepEscape alphabet state c
  | .continuation, c =>
      if c == '\r' then .goOn .continuationReturn []
      else if Text.isWhiteSpace c && alphabet.allows c then .goOn .continuation []
      else stepPlain alphabet c
  | .continuationReturn, c => if c == '\n' then .goOn .continuation [] else .refuse

end Cooked

/-- Where a raw text is being read; behind a quote, how many number signs have followed. -/
inductive Raw where
  | plain
  | carriageReturn
  | closing (signs : Nat)
  deriving Repr, DecidableEq

namespace Raw

/-- Read a character that does not go on with a closing quote, behind characters held back. -/
def stepPlain (alphabet : Alphabet) (fence : Nat) (held : List Char) (c : Char) : Verdict Raw :=
  if c == '"' then
    if fence = 0 then .complete else .goOn (.closing 0) held
  else if c == '\r' then .goOn .carriageReturn held
  else if alphabet.allows c then .goOn .plain (held ++ [c])
  else .refuse

/-- Read one character of a raw text that as many number signs fence. -/
def step (alphabet : Alphabet) (fence : Nat) : Raw → Char → Verdict Raw
  | .plain, c => stepPlain alphabet fence [] c
  | .carriageReturn, c => if c == '\n' then .goOn .plain ['\r', '\n'] else .refuse
  | .closing signs, c =>
      if c == '#' then
        if signs + 1 = fence then .complete else .goOn (.closing (signs + 1)) []
      else
        stepPlain alphabet fence ('"' :: List.replicate signs '#') c

end Raw

/-- Where a single quoted character is being read. -/
inductive Single where
  | start
  | escape (state : Escape)
  | close
  deriving Repr, DecidableEq

namespace Single

/-- Read one character of a single quoted character. -/
def step (alphabet : Alphabet) : Single → Char → Verdict Single
  | .start, c =>
      if c == '\\' then .goOn (.escape .start) []
      else if alphabet.allows c then .goOn .close [c]
      else .refuse
  | .escape state, c =>
      match state.step alphabet c with
      | .goOn next => .goOn (.escape next) []
      | .finished character => .goOn .close [character]
      | .refuse => .refuse
  | .close, c => if c == '\'' then .complete else .refuse

end Single

/-- Read a text with escapes behind its opening quote: its value and the rest. -/
def cooked? (alphabet : Alphabet) (text : List Char) : Option (List Char × List Char) :=
  scan (Cooked.step alphabet) .plain text

/-- The most number signs that may fence a raw text. -/
def greatestFence : Nat :=
  255

/-- Read a raw text from its number signs on: its value and the rest. -/
def raw? (alphabet : Alphabet) (text : List Char) : Option (List Char × List Char) :=
  let fence := (text.takeWhile (· == '#')).length
  match text.dropWhile (· == '#') with
  | '"' :: rest =>
      if fence ≤ greatestFence then scan (Raw.step alphabet fence) .plain rest else none
  | _ => none

/-- Read a single character behind its opening quote: the rest. -/
def single? (alphabet : Alphabet) (text : List Char) : Option (List Char) :=
  (scan (Single.step alphabet) .start text).map Prod.snd

end CheckedLiterals.Token
