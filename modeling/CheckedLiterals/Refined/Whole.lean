import CheckedLiterals.Numeral

namespace CheckedLiterals

/-!
# Whole numbers of fixed width

The twelve types of whole numbers.  A type has a width in bits and a sign or
none; the two types that are as wide as an address have 64 bits.  Arithmetic
wraps around.
-/

/-- A type of whole numbers of fixed width. -/
inductive WholeType where
  | i8
  | i16
  | i32
  | i64
  | i128
  | isize
  | u8
  | u16
  | u32
  | u64
  | u128
  | usize
  deriving Repr, DecidableEq

namespace WholeType

/-- Every type of whole numbers. -/
def all : List WholeType :=
  [.i8, .i16, .i32, .i64, .i128, .isize, .u8, .u16, .u32, .u64, .u128, .usize]

/-- The name of the type, which is also the suffix of its literals. -/
def name : WholeType → String
  | .i8 => "i8"
  | .i16 => "i16"
  | .i32 => "i32"
  | .i64 => "i64"
  | .i128 => "i128"
  | .isize => "isize"
  | .u8 => "u8"
  | .u16 => "u16"
  | .u32 => "u32"
  | .u64 => "u64"
  | .u128 => "u128"
  | .usize => "usize"

/-- Whether the type has negative numbers. -/
def isSigned : WholeType → Bool
  | .i8 | .i16 | .i32 | .i64 | .i128 | .isize => true
  | .u8 | .u16 | .u32 | .u64 | .u128 | .usize => false

/-- How many bits a number of the type has. -/
def width : WholeType → Nat
  | .i8 | .u8 => 8
  | .i16 | .u16 => 16
  | .i32 | .u32 => 32
  | .i64 | .u64 | .isize | .usize => 64
  | .i128 | .u128 => 128

/-- How many numbers the type has. -/
def modulus (type : WholeType) : Nat :=
  1 <<< type.width

/-- The least number of the type. -/
def least (type : WholeType) : Int :=
  if type.isSigned then -((1 <<< (type.width - 1) : Nat) : Int) else 0

/-- The first number above the numbers of the type. -/
def bound (type : WholeType) : Int :=
  type.least + type.modulus

/-- Whether a number belongs to the type. -/
def Holds (type : WholeType) (value : Int) : Prop :=
  type.least ≤ value ∧ value < type.bound

instance (type : WholeType) (value : Int) : Decidable (type.Holds value) := by
  unfold Holds
  infer_instance

/-- A type has at least one number. -/
theorem modulus_pos (type : WholeType) : 0 < type.modulus := by
  cases type <;> decide

end WholeType

/-- A number of a type of whole numbers. -/
structure Whole (type : WholeType) where
  value : Int
  holds : type.Holds value
  deriving DecidableEq

namespace Whole

variable {type : WholeType}

/-- The number of the type that differs from the value by a multiple of the modulus. -/
def wrap (type : WholeType) (value : Int) : Whole type where
  value :=
    type.least + (value - type.least) % type.modulus
  holds := by
    have positive := type.modulus_pos
    have lower := Int.emod_nonneg (value - type.least)
      (show (type.modulus : Int) ≠ 0 by omega)
    have upper := Int.emod_lt_of_pos (value - type.least)
      (show (0 : Int) < type.modulus by omega)
    constructor
    · omega
    · simp only [WholeType.bound]
      omega

/-- The value as a number of the type, if it belongs to it. -/
def ofInt? (type : WholeType) (value : Int) : Option (Whole type) :=
  if holds : type.Holds value then some ⟨value, holds⟩ else none

/-- Read an optional sign and digits; a type without negative numbers takes no minus. -/
def ofText? (type : WholeType) (text : String) : Option (Whole type) :=
  if !type.isSigned && text.toList.head? == some '-' then
    none
  else
    (Numeral.integer? text.toList).bind (ofInt? type)

/-- The sum, wrapped around. -/
def add (left right : Whole type) : Whole type :=
  wrap type (left.value + right.value)

/-- The difference, wrapped around. -/
def sub (left right : Whole type) : Whole type :=
  wrap type (left.value - right.value)

/-- The product, wrapped around. -/
def mul (left right : Whole type) : Whole type :=
  wrap type (left.value * right.value)

/-- The opposite number, wrapped around. -/
def neg (number : Whole type) : Whole type :=
  wrap type (-number.value)

/-- The digits of the magnitude. -/
def digits (number : Whole type) : List Char :=
  Nat.toDigits 10 number.value.natAbs

/-- The number in decimal digits, with a minus if it is negative. -/
def text (number : Whole type) : List Char :=
  if number.value < 0 then '-' :: number.digits else number.digits

/-- The bits of the number in hexadecimal digits. -/
def hex (number : Whole type) : List Char :=
  Nat.toDigits 16 (number.value % type.modulus).toNat

end Whole

end CheckedLiterals
