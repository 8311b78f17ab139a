import CheckedLiterals.Layout
import CheckedLiterals.Proofs.Numeral.Grammar

namespace CheckedLiterals

/-!
# What is written spells its value

The digits of a number spell it as a whole number.  A decimal that is written by a
layout, around a point or with a power of ten behind it, is spelled with the same
exact magnitude, and so it is if the digits of the decimal are first rid of the zeros
at their end.
-/

namespace Numeral

theorem allDigits_toDigits (value : Nat) : AllDigits (Nat.toDigits 10 value) :=
  fun _ member => Nat.isDigit_of_mem_toDigits (by decide) (by decide) member

theorem digitsValue_toDigits (value : Nat) : digitsValue (Nat.toDigits 10 value) = value :=
  Nat.ofDigitChars_ten_toDigits

theorem allDigits_zeros (count : Nat) : AllDigits (List.replicate count '0') := by
  intro c member
  rw [List.eq_of_mem_replicate member]
  rfl

theorem AllDigits.append
    {front back : List Char}
    (frontDigits : AllDigits front)
    (backDigits : AllDigits back) :
    AllDigits (front ++ back) := by
  intro c member
  rcases List.mem_append.mp member with inFront | inBack
  · exact frontDigits c inFront
  · exact backDigits c inBack

theorem digitsValue_zeros (count : Nat) : digitsValue (List.replicate count '0') = 0 := by
  rw [digitsValue, Nat.ofDigitChars_replicate_zero, Nat.mul_zero]

/-- Zeros in front of digits do not count. -/
theorem digitsValue_zeros_append (count : Nat) (digits : List Char) :
    digitsValue (List.replicate count '0' ++ digits) = digitsValue digits := by
  rw [digitsValue_append, digitsValue_zeros, Nat.zero_mul, Nat.zero_add]

/-- Zeros behind digits are powers of ten. -/
theorem digitsValue_append_zeros (digits : List Char) (count : Nat) :
    digitsValue (digits ++ List.replicate count '0') = digitsValue digits * 10 ^ count := by
  rw [digitsValue_append, digitsValue_zeros, List.length_replicate, Nat.add_zero]

/-- The digits of a number with a sign in front spell it as a whole number. -/
theorem spellsInteger_toDigits
    {sign : List Char}
    {negative : Bool}
    (isSign : IsSign sign negative)
    (value : Nat) :
    SpellsInteger (sign ++ Nat.toDigits 10 value) (if negative then -value else value) := by
  have spelled := SpellsInteger.digits isSign (allDigits_toDigits value) Nat.toDigits_ne_nil
  rwa [digitsValue_toDigits] at spelled

end Numeral

namespace Layout

open Numeral

variable
  {sign digits : List Char}
  {negative : Bool}

/-- A mantissa and an exponent spell the digits with the power of ten of the last of them. -/
theorem spellsDecimal_of_parts
    {mantissa whole fraction tail : List Char}
    {power : Int}
    (isSign : IsSign sign negative)
    (spelled : SpellsMantissa mantissa whole fraction)
    (exponent : SpellsExponent tail power) :
    SpellsDecimal (sign ++ (mantissa ++ tail)) negative
      (digitsValue (whole ++ fraction) * 10 ^ (power - fraction.length)) := by
  have same := magnitude_of_parts negative whole fraction power
  rw [magnitude] at same
  rw [same]
  exact .parts isSign spelled exponent

/-- Digits that begin behind the point. -/
theorem spellsDecimal_of_point_nonpos
    (isSign : IsSign sign negative)
    (allDigits : AllDigits digits)
    {point : Int}
    (before : point ≤ 0) :
    SpellsDecimal (sign ++ ('0' :: '.' :: (List.replicate (-point).toNat '0' ++ digits))) negative
      (digitsValue digits * 10 ^ (point - digits.length)) := by
  have fractionDigits := (allDigits_zeros (-point).toNat).append allDigits
  have spelled := spellsDecimal_of_parts isSign
    (.digitsThenPoint (allDigits_zeros 1) (by simp) fractionDigits) .absent
  have value : digitsValue (List.replicate 1 '0' ++ (List.replicate (-point).toNat '0' ++ digits)) =
      digitsValue digits := by
    rw [digitsValue_zeros_append, digitsValue_zeros_append]
  have places : 0 - ((List.replicate (-point).toNat '0' ++ digits).length : Int) =
      point - digits.length := by
    rw [List.length_append, List.length_replicate]
    omega
  rw [value, places, List.append_nil] at spelled
  exact spelled

/-- Digits that end in front of the point, which is then left out or has a zero behind it. -/
theorem spellsDecimal_of_length_le
    (isSign : IsSign sign negative)
    (allDigits : AllDigits digits)
    (nonempty : digits ≠ [])
    (pointZero : Bool)
    {point : Int}
    (after : (digits.length : Int) ≤ point) :
    SpellsDecimal
      (sign ++ (digits ++ List.replicate (point.toNat - digits.length) '0' ++
        (if pointZero then ['.', '0'] else [])))
      negative (digitsValue digits * 10 ^ (point - digits.length)) := by
  have wholeDigits := allDigits.append (allDigits_zeros (point.toNat - digits.length))
  have wholeNonempty : digits ++ List.replicate (point.toNat - digits.length) '0' ≠ [] := by
    simp [nonempty]
  have power : (10 : ℚ) ^ (point - digits.length) = 10 ^ (point.toNat - digits.length) := by
    rw [← zpow_natCast]
    congr 1
    omega
  rw [power]
  cases pointZero with
  | false =>
      have spelled := spellsDecimal_of_parts isSign (.noPoint wholeDigits wholeNonempty) .absent
      rw [List.append_nil, digitsValue_append_zeros] at spelled
      simpa using spelled
  | true =>
      have spelled := spellsDecimal_of_parts isSign
        (.digitsThenPoint wholeDigits wholeNonempty (allDigits_zeros 1)) .absent
      rw [digitsValue_append_zeros, digitsValue_append_zeros, List.append_nil] at spelled
      simpa [mul_assoc] using spelled

/-- Digits on both sides of the point. -/
theorem spellsDecimal_of_point_within
    (isSign : IsSign sign negative)
    (allDigits : AllDigits digits)
    {point : Int}
    (behind : 0 < point)
    (within : point < digits.length) :
    SpellsDecimal (sign ++ (digits.take point.toNat ++ '.' :: digits.drop point.toNat)) negative
      (digitsValue digits * 10 ^ (point - digits.length)) := by
  have wholeDigits : AllDigits (digits.take point.toNat) := fun c member =>
    allDigits c (List.mem_of_mem_take member)
  have fractionDigits : AllDigits (digits.drop point.toNat) := fun c member =>
    allDigits c (List.mem_of_mem_drop member)
  have wholeNonempty : digits.take point.toNat ≠ [] := by
    rw [← List.length_pos_iff, List.length_take]
    omega
  have spelled := spellsDecimal_of_parts isSign
    (.digitsThenPoint wholeDigits wholeNonempty fractionDigits) .absent
  have places : 0 - ((digits.drop point.toNat).length : Int) = point - digits.length := by
    rw [List.length_drop]
    omega
  rw [List.take_append_drop, places, List.append_nil] at spelled
  exact spelled

/-- Digits around a point are spelled with the power of ten that the point stands for. -/
theorem spellsDecimal_positionalText
    (isSign : IsSign sign negative)
    (allDigits : AllDigits digits)
    (nonempty : digits ≠ [])
    (pointZero : Bool)
    (point : Int) :
    SpellsDecimal (sign ++ positionalText pointZero digits point) negative
      (digitsValue digits * 10 ^ (point - digits.length)) := by
  rw [positionalText]
  split
  · exact spellsDecimal_of_point_nonpos isSign allDigits ‹_›
  · split
    · exact spellsDecimal_of_length_le isSign allDigits nonempty pointZero ‹_›
    · exact spellsDecimal_of_point_within isSign allDigits (by omega) (by omega)

/-- A power of ten behind the digits is spelled as the whole number that it is. -/
theorem spellsExponent_power
    (exponentPlus : Bool)
    (power : Int) :
    SpellsExponent
      ('e' ::
        ((if power < 0 then ['-'] else if exponentPlus then ['+'] else []) ++
          Nat.toDigits 10 power.natAbs))
      power := by
  have isSign : IsSign (if power < 0 then ['-'] else if exponentPlus then ['+'] else [])
      (decide (power < 0)) := by
    by_cases below : power < 0
    · simpa [below] using IsSign.minus
    · cases exponentPlus with
      | false => simpa [below] using IsSign.absent
      | true => simpa [below] using IsSign.plus
  have spelled := spellsInteger_toDigits isSign power.natAbs
  have value : (if decide (power < 0) then -(power.natAbs : Int) else power.natAbs) = power := by
    by_cases below : power < 0 <;>
      simp only [below, decide_true, decide_false, Bool.false_eq_true, ↓reduceIte] <;>
      omega
  rw [value] at spelled
  exact .marked (.inl rfl) spelled

/-- One digit, a point, the others and a power of ten. -/
theorem spellsDecimal_exponentText
    (isSign : IsSign sign negative)
    (allDigits : AllDigits digits)
    (nonempty : digits ≠ [])
    (exponentPlus : Bool)
    (power : Int) :
    SpellsDecimal (sign ++ exponentText exponentPlus digits power) negative
      (digitsValue digits * 10 ^ (power + 1 - digits.length)) := by
  have exponent := spellsExponent_power exponentPlus power
  cases digits with
  | nil => exact absurd rfl nonempty
  | cons first others =>
      have firstDigits : AllDigits [first] := fun c member =>
        allDigits c (List.mem_cons.mpr (.inl (List.mem_singleton.mp member)))
      have otherDigits : AllDigits others := fun c member =>
        allDigits c (List.mem_cons_of_mem first member)
      have mantissa : SpellsMantissa
          ([first] ++ (if others.isEmpty then [] else '.' :: others)) [first] others := by
        cases others with
        | nil => exact .noPoint firstDigits (by simp)
        | cons => exact .digitsThenPoint firstDigits (by simp) otherDigits
      have spelled := spellsDecimal_of_parts isSign mantissa exponent
      have places : power - (others.length : Int) = power + 1 - (first :: others).length := by
        rw [List.length_cons]
        push_cast
        ring
      rw [places] at spelled
      exact spelled

/-- A layout writes a decimal with its magnitude, whichever form it chooses. -/
theorem spellsDecimal_write
    (layout : Layout)
    (numeral : Numeral)
    (isSign : IsSign sign negative) :
    SpellsDecimal (sign ++ layout.write numeral) negative numeral.magnitude := by
  have allDigits := allDigits_toDigits numeral.significand
  have nonempty : Nat.toDigits 10 numeral.significand ≠ [] := Nat.toDigits_ne_nil
  have value := digitsValue_toDigits numeral.significand
  rw [write, digitsAndPoint, magnitude]
  dsimp only
  split
  · case isTrue zero =>
      rw [beq_iff_eq] at zero
      have spelled := spellsDecimal_positionalText isSign (allDigits_zeros 1) (by simp)
        layout.pointZero 1
      rw [digitsValue_zeros] at spelled
      simpa [zero] using spelled
  · split
    · have spelled := spellsDecimal_positionalText isSign allDigits nonempty layout.pointZero
        ((Nat.toDigits 10 numeral.significand).length + numeral.exponent)
      rw [value, add_sub_cancel_left] at spelled
      exact spelled
    · have spelled := spellsDecimal_exponentText isSign allDigits nonempty layout.exponentPlus
        ((Nat.toDigits 10 numeral.significand).length + numeral.exponent - 1)
      rw [value, sub_add_cancel, add_sub_cancel_left] at spelled
      exact spelled

end Layout

end CheckedLiterals
