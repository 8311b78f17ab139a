import CheckedLiterals.Proofs.Invocation.Numeric

namespace CheckedLiterals

/-!
# What is checked is what is emitted

A checked text and a source text differ for string literals only, which no numeric kind accepts.
An expression that is passed on stands in an invisible group, and so does the operand of a negation.
Neither text knows of such groups, and so an invocation comes to the same with them and without.
-/

namespace Expression

/-- Whether an expression is a compound, with which attributes are put out. -/
def isCompound : Expression → Bool
  | .compound .. => true
  | _ => false

/-- Whether two expressions differ only in groups around them and around negated operands. -/
inductive Regrouped : Expression → Expression → Prop where
  | refl (expression : Expression) : Regrouped expression expression
  | symm
      {first second : Expression} :
      Regrouped first second →
        Regrouped second first
  | trans
      {first second third : Expression} :
      Regrouped first second →
        Regrouped second third →
        Regrouped first third
  | group (inner : Expression) : Regrouped inner (.grouped inner)
  | attributedGroup
      (attributes : Trees)
      (inner : Expression) :
      Regrouped inner (.attributed attributes (.grouped inner))
  | operand
      {first second : Expression} :
      Regrouped first second →
        Regrouped (.negation first) (.negation second)
  | attributed
      {first second : Expression}
      (attributes : Trees) :
      first.isCompound = false →
        second.isCompound = false →
        Regrouped first second →
        Regrouped (.attributed attributes first) (.attributed attributes second)

end Expression

namespace FrontEnd

open Expression (Regrouped)

variable (frontEnd : FrontEnd)

theorem sourceText_attributed
    {inner : Expression}
    (attributes : Trees)
    (simple : inner.isCompound = false) :
    frontEnd.sourceText (.attributed attributes inner) = frontEnd.sourceText inner := by
  cases inner with
  | compound => cases simple
  | _ => rfl

theorem checkedText_attributed
    {inner : Expression}
    (attributes : Trees)
    (simple : inner.isCompound = false) :
    frontEnd.checkedText (.attributed attributes inner) = frontEnd.checkedText inner := by
  cases inner with
  | compound => cases simple
  | _ => rfl

/-- Groups are not put out. -/
theorem sourceText_of_regrouped
    {first second : Expression}
    (same : Regrouped first second) :
    frontEnd.sourceText first = frontEnd.sourceText second := by
  induction same with
  | refl => rfl
  | symm _ reversed => exact reversed.symm
  | trans _ _ left right => exact left.trans right
  | group => rfl
  | attributedGroup => rfl
  | operand _ inner => exact congrArg ('-' :: ·) inner
  | attributed attributes simple alsoSimple _ inner =>
      rw [frontEnd.sourceText_attributed attributes simple,
        frontEnd.sourceText_attributed attributes alsoSimple, inner]

/-- Nor are they checked; what is checked of a negation is what is put out of it. -/
theorem checkedText_of_regrouped
    {first second : Expression}
    (same : Regrouped first second) :
    frontEnd.checkedText first = frontEnd.checkedText second := by
  induction same with
  | refl => rfl
  | symm _ reversed => exact reversed.symm
  | trans _ _ left right => exact left.trans right
  | group => rfl
  | attributedGroup => rfl
  | operand inner _ => exact congrArg ('-' :: ·) (frontEnd.sourceText_of_regrouped inner)
  | attributed attributes simple alsoSimple _ inner =>
      rw [frontEnd.checkedText_attributed attributes simple,
        frontEnd.checkedText_attributed attributes alsoSimple, inner]

/-- So an invocation on either comes to the same, for every kind and whatever stands behind. -/
theorem expandExpressions_of_regrouped
    {first second : Expression}
    (same : Regrouped first second)
    (kind : Kind)
    (rest others : List Expression) :
    frontEnd.expandExpressions kind (first :: rest) =
      frontEnd.expandExpressions kind (second :: others) := by
  rw [expandExpressions_cons, expandExpressions_cons, emitted?, emitted?,
    frontEnd.sourceText_of_regrouped same, frontEnd.checkedText_of_regrouped same]

/-- A numeric kind emits the constructor call on the very text that it has checked. -/
theorem emitted_eq_checked
    {kind : Kind}
    {first : Expression}
    {rest : List Expression}
    {emitted : Trees}
    (numeric : kind.isNumeric = true)
    (emits : frontEnd.expandExpressions kind (first :: rest) = .ok emitted) :
    frontEnd.checkedText first = frontEnd.sourceText first ∧
      kind.expand
          ((first :: rest).map fun argument => String.ofList (frontEnd.checkedText argument)) =
        .ok { kind := kind, literal := String.ofList (frontEnd.checkedText first) } ∧
      frontEnd.trees?
          ((Expansion.opening kind).toList ++ frontEnd.checkedText first ++
            (Expansion.closing kind).toList) =
        some emitted := by
  have noString : first.stringValue? = none := by
    refine Option.eq_none_iff_forall_ne_some.mpr fun value isString => ?_
    rw [expandExpressions_of_stringValue? isString numeric rest] at emits
    cases emits
  have same := frontEnd.checkedText_of_stringValue?_eq_none noString
  obtain ⟨_, _, shape, checked, put⟩ := expandExpressions_eq_ok_iff.mp emits
  cases shape
  refine ⟨same, ?_, ?_⟩
  · rw [List.map_cons, Kind.expand, firstArgument]
    simp only [checked]
  · rw [emitted?, Expansion.render, String.toList_append, String.toList_append,
      String.toList_ofList] at put
    rw [same, put]

/-- A number, which is passed on in groups. -/
def passedOn : Literal :=
  { form := .float, spelling := "1.5".toList }

end FrontEnd

end CheckedLiterals
