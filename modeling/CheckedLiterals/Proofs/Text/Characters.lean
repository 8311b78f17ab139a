import CheckedLiterals.Text.Identifier
import CheckedLiterals.Text.WhiteSpace

namespace CheckedLiterals.Text

/-!
# Digits, words and blanks

No digit and no beginning of an identifier is white space, so trimming takes off
neither; and no identifier begins with a digit.
-/

theorem bounds_of_isDigit
    {c : Char}
    (digit : c.isDigit = true) :
    48 ≤ c.toNat ∧ c.toNat ≤ 57 := by
  simp only [Char.isDigit, Bool.and_eq_true, decide_eq_true_eq] at digit
  exact digit

/-- A letter is a capital or a small one. -/
theorem isAlpha_iff
    {c : Char} :
    c.isAlpha = true ↔ 'A' ≤ c ∧ c ≤ 'Z' ∨ 'a' ≤ c ∧ c ≤ 'z' := by
  have shape : c.isAlpha =
      (decide ('A' ≤ c ∧ c ≤ 'Z') || (decide ('a' ≤ c) && decide (c ≤ 'z'))) := rfl
  rw [shape, Bool.or_eq_true, Bool.and_eq_true, decide_eq_true_eq, decide_eq_true_eq,
    decide_eq_true_eq]

theorem not_blank_of_isDigit
    {c : Char}
    (digit : c.isDigit = true) :
    isWhiteSpace c = false := by
  obtain ⟨low, high⟩ := bounds_of_isDigit digit
  simp only [isWhiteSpace, Bool.or_eq_false_iff, Bool.and_eq_false_iff, decide_eq_false_iff_not,
    beq_eq_false_iff_ne]
  omega

/-- The code points of white space. -/
def blankCodes : List Nat :=
  [0x09, 0x0A, 0x0B, 0x0C, 0x0D, 0x20, 0x85, 0xA0, 0x1680, 0x2000, 0x2001, 0x2002, 0x2003, 0x2004,
    0x2005, 0x2006, 0x2007, 0x2008, 0x2009, 0x200A, 0x2028, 0x2029, 0x202F, 0x205F, 0x3000]

theorem mem_blankCodes_of_isWhiteSpace
    {c : Char}
    (blank : isWhiteSpace c = true) :
    c.toNat ∈ blankCodes := by
  simp only [isWhiteSpace, Bool.or_eq_true, Bool.and_eq_true, decide_eq_true_eq, beq_iff_eq]
    at blank
  simp only [blankCodes, List.mem_cons, List.not_mem_nil, or_false]
  omega

/-- No identifier begins with white space. -/
theorem not_blank_of_isIdentifierStart
    {c : Char}
    (starts : isIdentifierStart c = true) :
    isWhiteSpace c = false := by
  have apart : ∀ code ∈ blankCodes, isIdentifierStart (Char.ofNat code) = false := by
    decide +kernel
  rw [Bool.eq_false_iff]
  intro blank
  have none := apart _ (mem_blankCodes_of_isWhiteSpace blank)
  rw [Char.ofNat_toNat, starts] at none
  cases none

/-- No identifier begins with a digit. -/
theorem not_digit_of_isIdentifierStart
    {c : Char}
    (starts : isIdentifierStart c = true) :
    c.isDigit = false := by
  have apart : ∀ code ∈ List.range' 48 10, isIdentifierStart (Char.ofNat code) = false := by
    decide +kernel
  rw [Bool.eq_false_iff]
  intro digit
  have codes : c.toNat ∈ List.range' 48 10 := by
    obtain ⟨low, high⟩ := bounds_of_isDigit digit
    rw [List.mem_range'_1]
    omega
  have none := apart _ codes
  rw [Char.ofNat_toNat, starts] at none
  cases none

end CheckedLiterals.Text
