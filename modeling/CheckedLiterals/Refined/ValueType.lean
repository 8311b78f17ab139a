import CheckedLiterals.Refined.Domain

namespace CheckedLiterals

/-!
# The types that have predicates

Every number type has the predicates of the numeric kinds, except that a type
without negative numbers has none for them; texts have the predicate of those
that are not empty.
-/

/-- A type of values that have predicates. -/
inductive ValueType where
  | whole (type : WholeType)
  | float (format : Binary.Format)
  | text
  | slice
  deriving Repr, DecidableEq

namespace ValueType

/-- The values of a type. -/
abbrev Carrier : ValueType → Type
  | .whole type => Whole type
  | .float format => Binary format
  | .text => String
  | .slice => Slice

instance (type : ValueType) : Domain type.Carrier :=
  match type with
  | .whole _ => inferInstanceAs (Domain (Whole _))
  | .float _ => inferInstanceAs (Domain (Binary _))
  | .text => inferInstanceAs (Domain String)
  | .slice => inferInstanceAs (Domain Slice)

/-- The name of a type. -/
def name : ValueType → String
  | .whole type => type.name
  | .float .binary32 => "f32"
  | .float .binary64 => "f64"
  | .text => "String"
  | .slice => "str"

/-- Every type. -/
def all : List ValueType :=
  WholeType.all.map .whole ++ [.float .binary32, .float .binary64, .text, .slice]

/-- The type with a name. -/
def ofName? (name : String) : Option ValueType :=
  all.find? fun type => type.name == name

/-- The numeric kinds that are predicates of a type. -/
def kinds : ValueType → List Kind
  | .whole type =>
      Kind.all.filter fun kind => kind.isNumeric && (type.isSigned || kind != .negative)
  | .float _ => Kind.all.filter Kind.isNumeric
  | .text | .slice => []

/-- The predicates of a type by their names. -/
def predicates : (type : ValueType) → List (String × Predicate type.Carrier)
  | .whole type => (kinds (.whole type)).map fun kind => (kind.name, kind.predicate)
  | .float format => (kinds (.float format)).map fun kind => (kind.name, kind.predicate)
  | .text => [("NonEmpty", Predicate.nonEmpty String.toList)]
  | .slice => [("NonEmpty", Predicate.nonEmpty fun slice => slice.text.toList)]

end ValueType

end CheckedLiterals
