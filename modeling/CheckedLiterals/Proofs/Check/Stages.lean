import CheckedLiterals.Proofs.Binary.Extended
import CheckedLiterals.Proofs.Check.Judgement

namespace CheckedLiterals

/-!
# One rule for all types and both stages

Whatever type a number has, its predicates go by its exact value alone, and what they
say is the rule of their kind among the extended reals.  The check of a literal's number
reports the fault that the predicate at the widest type of its sort words.
-/

/-- The exact value of a value, if its type is one of numbers and it is a number. -/
noncomputable def ValueType.extended? : (type : ValueType) → type.Carrier → Option EReal
  | .whole _, number => some ((Whole.value number : ℝ) : EReal)
  | .float _, number => Binary.extended? number
  | .text, _ => none
  | .slice, _ => none

namespace Kind

/-- The rule of a kind among the extended reals. -/
noncomputable def rule (kind : Kind) (value : EReal) : Except Violation Unit :=
  kind.verdict (fun bound => ((bound : ℝ) : EReal)) value

/-- Whole numbers are ordered as the extended reals that they are. -/
theorem compare_whole (value bound : Int) :
    compare ((value : ℝ) : EReal) ((bound : ℝ) : EReal) = compare value bound := by
  have ordered : StrictMono fun value : Int => ((value : ℝ) : EReal) :=
    EReal.coe_strictMono.comp Int.cast_strictMono
  rw [← cmp_eq_compare, ← cmp_eq_compare]
  exact ordered.cmp_map_eq value bound

theorem judgeValue_whole_eq_rule
    (kind : Kind)
    {type : WholeType}
    (number : Whole type) :
    kind.judgeValue number = kind.rule ((number.value : ℝ) : EReal) := by
  rw [judgeValue_whole]
  exact kind.verdict_congr fun bound _ => (compare_whole number.value bound).symm

theorem judgeValue_binary_eq_rule
    (kind : Kind)
    {format : Binary.Format}
    {number : Binary format}
    {value : EReal}
    (isValue : number.extended? = some value) :
    kind.judgeValue number = kind.rule value :=
  judgeValue_eq_verdict_of_signed rfl fun _ small =>
    Binary.compareInt?_of_extended isValue (small.trans Nat.one_le_two_pow)

theorem judgeLiteral_integer_eq_rule
    (kind : Kind)
    (number : Int64) :
    kind.judgeLiteral (.integer number) = kind.rule ((number.toInt : ℝ) : EReal) :=
  kind.judgeLiteral_eq_verdict fun bound _ => (compare_whole number.toInt bound).symm

theorem judgeLiteral_float_eq_rule
    (kind : Kind)
    {number : Binary64}
    {value : EReal}
    (isValue : number.extended? = some value) :
    kind.judgeLiteral (.float number) = kind.rule value := by
  apply kind.judgeLiteral_eq_verdict
  intro bound small
  have compared := Binary.compareInt?_of_extended isValue (small.trans Nat.one_le_two_pow)
  rw [LiteralNumber.compareInt, compared, Option.getD_some]

/-- What is not a number breaks every rule but the one that excludes zero. -/
theorem judgeValue_nan_eq_ok_iff
    (kind : Kind)
    (format : Binary.Format) :
    kind.judgeValue (.nan : Binary format) = .ok () ↔ kind = .nonZero := by
  cases kind <;>
    simp [judgeValue, Comparable.requirements, signedRequirements, firstFault,
      Relation.holdsIfComparable, Comparable.compareInt?, Binary.compareInt?, Binary.compare?,
      Binary.rank?]

/-- No two kinds share a name. -/
theorem name_injective : Function.Injective name := by
  intro kind other same
  have selected := ofName?_name kind
  rw [same, ofName?_name, Option.some.injEq] at selected
  exact selected.symm

theorem predicate_check
    {Value : Type}
    [Comparable Value]
    (kind : Kind)
    (value : Value) :
    kind.predicate.check value = (kind.judgeValue value).mapError Violation.valueMessage :=
  rfl

end Kind

/-- Whether an answer is the wording of a judgement: it accepts as well, or words the fault. -/
def Words (answer : Except String Unit) (judgement : Except Violation Unit) : Prop :=
  (answer = .ok () ↔ judgement = .ok ()) ∧
    ∀ fault : Violation, answer = .error fault.valueMessage ↔ judgement = .error fault

/-- No two faults are worded alike. -/
theorem Violation.valueMessage_injective : Function.Injective valueMessage := by
  intro fault other
  cases fault <;> cases other <;> decide

/-- What is worded fault by fault can be told from the wording. -/
theorem words_mapError (judgement : Except Violation Unit) :
    Words (judgement.mapError Violation.valueMessage) judgement := by
  cases judgement with
  | ok => simp [Words, Except.mapError]
  | error fault => simp [Words, Except.mapError, Violation.valueMessage_injective.eq_iff]

namespace ValueType

/-- Under the name of a kind, a table of predicates by kinds has the predicate of the kind. -/
theorem eq_predicate_of_mem
    {Value : Type}
    [Comparable Value]
    {kinds : List Kind}
    {kind : Kind}
    {predicate : Predicate Value}
    (member : (kind.name, predicate) ∈ kinds.map fun kind => (kind.name, kind.predicate)) :
    predicate = kind.predicate := by
  obtain ⟨other, _, same⟩ := List.mem_map.mp member
  rw [Prod.mk.injEq] at same
  rw [← Kind.name_injective same.1, same.2]

/-- A predicate says of a value what the rule of its kind says of the exact value. -/
theorem check_eq_rule
    {type : ValueType}
    {value : type.Carrier}
    {exact : EReal}
    {kind : Kind}
    {predicate : Predicate type.Carrier}
    (isExact : type.extended? value = some exact)
    (member : (kind.name, predicate) ∈ type.predicates) :
    predicate.check value = (kind.rule exact).mapError Violation.valueMessage := by
  cases type with
  | whole type =>
      rw [ValueType.extended?, Option.some.injEq] at isExact
      rw [eq_predicate_of_mem member, Kind.predicate_check, Kind.judgeValue_whole_eq_rule, isExact]
  | float format =>
      rw [eq_predicate_of_mem member, Kind.predicate_check,
        Kind.judgeValue_binary_eq_rule kind isExact]
  | text => cases isExact
  | slice => cases isExact

end ValueType

/--
Values of two number types that are exactly the same number get the same answer from the
predicates of a kind, in the same words: what the rule of the kind says of the number among
the extended reals.  What is not a number gets through the predicate that excludes zero and
through no other.  A predicate at the widest type of whole numbers with 64 bits and a sign, or
in double width, words just what the check of a literal's number finds, also for infinities.
-/
theorem one_rule_everywhere :
    (∀ (type other : ValueType) (value : type.Carrier) (otherValue : other.Carrier)
        (exact : EReal) (kind : Kind)
        (predicate : Predicate type.Carrier) (otherPredicate : Predicate other.Carrier),
      type.extended? value = some exact →
        other.extended? otherValue = some exact →
        (kind.name, predicate) ∈ type.predicates →
        (kind.name, otherPredicate) ∈ other.predicates →
        predicate.check value = otherPredicate.check otherValue ∧
          Words (predicate.check value) (kind.rule exact)) ∧
      (∀ (format : Binary.Format) (kind : Kind) (predicate : Predicate (Binary format)),
        (kind.name, predicate) ∈ (ValueType.float format).predicates →
          (predicate.check .nan = .ok () ↔ kind = .nonZero)) ∧
      ∀ kind : Kind,
        (∀ (number : Int64) (whole : Whole .i64),
          whole.value = number.toInt →
            Words (kind.predicate.check whole) (kind.judgeLiteral (.integer number))) ∧
          ∀ number : Binary64,
            number ≠ .nan →
              Words (kind.predicate.check number) (kind.judgeLiteral (.float number)) := by
  refine ⟨?_, ?_, ?_⟩
  · intro type other value otherValue exact kind predicate otherPredicate
      isExact otherIsExact member otherMember
    rw [ValueType.check_eq_rule isExact member, ValueType.check_eq_rule otherIsExact otherMember]
    exact ⟨rfl, words_mapError _⟩
  · intro format kind predicate member
    rw [ValueType.eq_predicate_of_mem member, ← kind.judgeValue_nan_eq_ok_iff format,
      Kind.predicate_check]
    exact (words_mapError _).1
  · intro kind
    constructor
    · intro number whole same
      rw [Kind.predicate_check, kind.judgeValue_whole_eq_rule, same,
        kind.judgeLiteral_integer_eq_rule]
      exact words_mapError _
    · intro number isNumber
      obtain ⟨value, isValue⟩ := Binary.exists_extended isNumber
      rw [Kind.predicate_check, kind.judgeValue_binary_eq_rule isValue,
        kind.judgeLiteral_float_eq_rule isValue]
      exact words_mapError _

/-- Two without a sign and two in single width are told the same about the range up to one. -/
theorem one_rule_everywhere_two :
    let whole : Whole .u8 := ⟨2, by decide⟩
    let float : Binary32 := .finite false (2 ^ 150) (by decide +kernel)
    (ValueType.whole .u8).extended? whole = some ((2 : ℝ) : EReal) ∧
      (ValueType.float .binary32).extended? float = some ((2 : ℝ) : EReal) ∧
      (Kind.predicate .zeroToOne).check whole = (Kind.predicate .zeroToOne).check float ∧
      Words ((Kind.predicate .zeroToOne).check whole) (Kind.rule .zeroToOne ((2 : ℝ) : EReal)) := by
  intro whole float
  have wholeExact : (ValueType.whole .u8).extended? whole = some ((2 : ℝ) : EReal) := by
    simp [ValueType.extended?, whole]
  have floatExact : (ValueType.float .binary32).extended? float = some ((2 : ℝ) : EReal) := by
    simp only [ValueType.extended?, Binary.extended?, float, Binary.signed, Binary.Format.scale]
    norm_num
  have wholeMember : (Kind.name .zeroToOne, Kind.predicate .zeroToOne) ∈
      (ValueType.whole .u8).predicates :=
    List.mem_map_of_mem (by decide)
  have floatMember : (Kind.name .zeroToOne, Kind.predicate .zeroToOne) ∈
      (ValueType.float .binary32).predicates :=
    List.mem_map_of_mem (by decide)
  exact ⟨wholeExact, floatExact,
    one_rule_everywhere.1 _ _ _ _ _ .zeroToOne _ _ wholeExact floatExact wholeMember floatMember⟩

end CheckedLiterals
