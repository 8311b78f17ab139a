import CheckedLiterals.Refined.ValueType

namespace CheckedLiterals

/-!
# Aliases

Short names for the refined types that are used most: a type with one of its
predicates.
-/

/-- A type together with one of its predicates. -/
structure RefinedType where
  type : ValueType
  predicate : Predicate type.Carrier

namespace RefinedType

/-- Whole numbers that satisfy a kind. -/
def whole (type : WholeType) (kind : Kind) : RefinedType where
  type :=
    .whole type
  predicate :=
    (kind.predicate : Predicate (Whole type))

/-- Floating-point numbers that satisfy a kind. -/
def float (format : Binary.Format) (kind : Kind) : RefinedType where
  type :=
    .float format
  predicate :=
    (kind.predicate : Predicate (Binary format))

/-- Texts that are not empty. -/
def nonEmptyText : RefinedType where
  type :=
    .text
  predicate :=
    Predicate.nonEmpty String.toList

/-- The refined types with their names. -/
def aliases : List (String × RefinedType) :=
  [("NonEmptyString", nonEmptyText),
    ("PositiveI32", whole .i32 .positive),
    ("PositiveI64", whole .i64 .positive),
    ("PositiveF64", float .binary64 .positive),
    ("NegativeI32", whole .i32 .negative),
    ("NegativeF64", float .binary64 .negative),
    ("NonPositiveI32", whole .i32 .nonPositive),
    ("NonPositiveF64", float .binary64 .nonPositive),
    ("NonNegativeI32", whole .i32 .nonNegative),
    ("NonNegativeI64", whole .i64 .nonNegative),
    ("NonNegativeF64", float .binary64 .nonNegative),
    ("NonZeroI32", whole .i32 .nonZero),
    ("NonZeroU32", whole .u32 .nonZero),
    ("NonZeroUsize", whole .usize .nonZero),
    ("NonZeroF64", float .binary64 .nonZero),
    ("ZeroToOneF32", float .binary32 .zeroToOne),
    ("ZeroToOneF64", float .binary64 .zeroToOne),
    ("MinusOneToOneF32", float .binary32 .minusOneToOne),
    ("MinusOneToOneF64", float .binary64 .minusOneToOne)]

/-- The refined type with a name. -/
def ofAlias? (name : String) : Option RefinedType :=
  (aliases.find? fun entry => entry.1 == name).map Prod.snd

/-- Write a value of the type as a refined value by a template. -/
def write (refinedType : RefinedType) (template : Template) (value : refinedType.type.Carrier) :
    String :=
  String.ofList
    (template.writeRefined refinedType.predicate.typeName (Domain.write template value))

end RefinedType

end CheckedLiterals
