namespace CheckedLiterals.Text

/-!
# Ranges of characters

A class of characters past ASCII is a list of ranges of code points, with the
first and the last code point of each range.
-/

/-- The first and the last code point of a range. -/
abbrev CharacterRange := Nat × Nat

/-- Whether a character lies in one of the ranges. -/
def inRanges (ranges : List CharacterRange) (c : Char) : Bool :=
  ranges.any fun range => decide (range.1 ≤ c.toNat) && decide (c.toNat ≤ range.2)

end CheckedLiterals.Text
