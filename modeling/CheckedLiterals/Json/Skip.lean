import CheckedLiterals.Json.Blank
import CheckedLiterals.Json.Number
import CheckedLiterals.Json.Text

namespace CheckedLiterals.Json

/-!
# Passing over JSON values

Any JSON value can be passed over: what remains behind it is found without
keeping the value.  Each function takes a bound on the nesting and the length of
what is passed over; `skipValue?` chooses one that suffices.
-/

/-- The text behind a word. -/
def afterWord? (word : String) (text : List Char) : Option (List Char) :=
  if word.toList.isPrefixOf text then some (text.drop word.length) else none

mutual

/-- Pass over a value that blanks may precede. -/
def skipValueWithin : Nat → List Char → Option (List Char)
  | 0, _ => none
  | steps + 1, text =>
      match skipBlank text with
      | '"' :: rest => skipString? ('"' :: rest)
      | '[' :: rest =>
          match afterChar? ']' rest with
          | some remaining => some remaining
          | none => skipItemsWithin steps rest
      | '\x7b' :: rest =>
          match afterChar? '\x7d' rest with
          | some remaining => some remaining
          | none => skipMembersWithin steps rest
      | 'n' :: rest => afterWord? "null" ('n' :: rest)
      | 't' :: rest => afterWord? "true" ('t' :: rest)
      | 'f' :: rest => afterWord? "false" ('f' :: rest)
      | other => (readNumber? other).map Prod.snd

/-- Pass over the items of a list and the bracket behind them. -/
def skipItemsWithin : Nat → List Char → Option (List Char)
  | 0, _ => none
  | steps + 1, text =>
      match skipValueWithin steps text with
      | some rest =>
          match afterChar? ',' rest with
          | some remaining => skipItemsWithin steps remaining
          | none => afterChar? ']' rest
      | none => none

/-- Pass over the members of an object and the brace behind them. -/
def skipMembersWithin : Nat → List Char → Option (List Char)
  | 0, _ => none
  | steps + 1, text =>
      match ((skipString? (skipBlank text)).bind (afterChar? ':')).bind (skipValueWithin steps) with
      | some rest =>
          match afterChar? ',' rest with
          | some remaining => skipMembersWithin steps remaining
          | none => afterChar? '\x7d' rest
      | none => none

end

/-- Pass over a value that blanks may precede. -/
def skipValue? (text : List Char) : Option (List Char) :=
  skipValueWithin (2 * text.length + 2) text

end CheckedLiterals.Json
