import CheckedLiterals.Binary.Basic

namespace CheckedLiterals.Binary

/-!
# Interchange encoding

The bits of a number, most significant first, are the sign, the exponent field
and the trailing significand.  Read as one whole number without the sign, the
encoding counts the numbers of the format upwards from zero; infinity comes right
behind the largest finite number and everything past it is not a number.
-/

variable {format : Format}

/-- The encoding of a magnitude: how many smaller magnitudes the format has. -/
def Format.magnitudeBits (format : Format) (units : Nat) : Nat :=
  (format.excess units <<< (format.precision - 1)) + (units >>> format.excess units)

/-- The sign bit, set for a minus. -/
def Format.signBit (format : Format) (negative : Bool) : Nat :=
  if negative then 1 <<< (format.width - 1) else 0

/-- The encoding of a number, if it is one. -/
def toBits? : Binary format → Option Nat
  | .nan => none
  | .infinite negative =>
      some (format.signBit negative + format.magnitudeBits format.limit)
  | .finite negative units _ =>
      some (format.signBit negative + format.magnitudeBits units)

/-- The encoding in lower-case hexadecimal digits, or the text for what is not a number. -/
def hex (number : Binary format) : String :=
  match number.toBits? with
  | none => "NaN"
  | some bits =>
      let digits := Nat.toDigits 16 bits
      String.ofList (List.replicate (format.width / 4 - digits.length) '0' ++ digits)

end CheckedLiterals.Binary
