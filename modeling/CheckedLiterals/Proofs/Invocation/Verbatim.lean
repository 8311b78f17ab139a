import CheckedLiterals.Proofs.Invocation.ConstructorCall
import CheckedLiterals.Proofs.Invocation.NonEmpty
import CheckedLiterals.Proofs.Invocation.Standalone

namespace CheckedLiterals

/-!
# Accepted literals are emitted as they are written

The constructor call on an accepted literal is put together as text and cut into tokens again.
Nothing goes wrong on the way: the literal is cut off where it was put in, so what takes the
place of the invocation is the call whose argument is the literal behind its minus signs.
-/

namespace FrontEnd

variable
  {frontEnd : FrontEnd}
  {first : Expression}
  {written : Literal}

/-- What comes down to a literal is put out as the literal behind the minus signs. -/
theorem sourceText_of_core?
    (writes : frontEnd.WritesLiterals)
    (isCore : first.core? = some written) :
    frontEnd.sourceText first = written.signedText first.minuses := by
  induction first with
  | literal =>
      cases isCore
      exact writes written
  | grouped inner innerText => exact innerText isCore
  | negation operand operandText =>
      rw [sourceText, operandText isCore]
      rfl
  | attributed attributes inner innerText =>
      cases inner with
      | compound => cases isCore
      | _ => exact innerText isCore
  | compound => cases isCore

/-- On an argument that comes down to a literal, the emitted code can be cut into tokens. -/
theorem exists_emitted?_of_core?
    (cuts : frontEnd.CutsCalls)
    (writes : frontEnd.WritesLiterals)
    (isToken : frontEnd.IsToken written)
    (isCore : first.core? = some written)
    (kind : Kind) :
    ∃ signs : List Spacing,
      signs.length = first.minuses ∧
        frontEnd.emitted? kind first = some (kind.constructorCall (written.signed signs)) := by
  rw [emitted?, sourceText_of_core? writes isCore]
  exact cuts.trees?_render isToken kind first.minuses

/--
Let a front end cut calls at sight and write literals as they are spelled, and let the first
argument come down to a literal that is cut again as what it is spelled.  Then its source text is
the literal's spelling behind as many minus signs as it is negated.  For every kind the invocation
is rejected if the argument is, and else emits the call of the kind's constructor whose argument is
these signs and this literal, and nothing else; the emitted code can always be cut into tokens.
-/
theorem expandTrees_verbatim
    (frontEnd : FrontEnd)
    (cuts : frontEnd.CutsCalls)
    (writes : frontEnd.WritesLiterals)
    {first : Expression}
    {written : Literal}
    (isCore : first.core? = some written)
    (isToken : frontEnd.IsToken written) :
    frontEnd.sourceText first = List.replicate first.minuses '-' ++ written.spelling ∧
      ∀ kind : Kind,
        ∃ signs : List Spacing,
          signs.length = first.minuses ∧
            ∀ rest : List Expression,
              frontEnd.expandExpressions kind (first :: rest) ≠ .error .malformed ∧
                (∀ emitted,
                  frontEnd.expandExpressions kind (first :: rest) = .ok emitted ↔
                    (∃ expansion,
                        kind.expand
                            ((first :: rest).map fun argument =>
                              String.ofList (frontEnd.checkedText argument)) =
                          .ok expansion) ∧
                      emitted =
                        kind.constructorCall (signs.map (.mark '-' ·) ++ [.literal written])) ∧
                ∀ trees,
                  frontEnd.arguments? trees = some (first :: rest) →
                    frontEnd.expandTrees kind trees =
                      frontEnd.expandExpressions kind (first :: rest) := by
  refine ⟨sourceText_of_core? writes isCore, fun kind => ?_⟩
  obtain ⟨signs, length, emits⟩ := exists_emitted?_of_core? cuts writes isToken isCore kind
  refine ⟨signs, length, fun rest => ⟨?_, fun emitted => ?_, fun trees read => ?_⟩⟩
  · rw [expandExpressions_cons, emits]
    cases kind.check (String.ofList (frontEnd.checkedText first)) <;> simp
  · rw [expandExpressions_cons, emits, List.map_cons, Kind.expand, firstArgument]
    cases checked : kind.check (String.ofList (frontEnd.checkedText first)) with
    | error rejection => simp [checked]
    | ok => simp [checked, Literal.signed, eq_comm]
  · exact expandTrees_of_arguments? kind read

/-- A float that ends in its point. -/
def pointed : Literal :=
  { form := .float, spelling := "1.".toList }

/-- A raw text that looks like the end of the call and the beginning of a comment. -/
def fencedCall : Literal :=
  { form := .string "\"))/*".toList, spelling := "r#\"\"))/*\"#".toList }

/-- Neither a point nor a text changes what is around it, whatever it looks like. -/
theorem expandTrees_verbatim_pointed :
    standalone.CutsCalls ∧
      standalone.WritesLiterals ∧
      standalone.IsToken pointed ∧
      standalone.IsToken fencedCall ∧
      standalone.arguments? [.mark '-' .alone, .group .invisible [.literal pointed]] =
        some [.negation (.grouped (.literal pointed))] ∧
      (∃ signs : List Spacing,
        signs.length = 1 ∧
          standalone.expandTrees .negative
              [.mark '-' .alone, .group .invisible [.literal pointed]] =
            .ok
              (Kind.constructorCall .negative
                (signs.map (.mark '-' ·) ++ [.literal pointed]))) ∧
      standalone.expandTrees .nonEmptyString [.literal fencedCall] =
        .ok (Kind.constructorCall .nonEmptyString [.literal fencedCall]) := by
  have cuts := cutsCalls_standalone
  have writes := writesLiterals_standalone
  have pointCore : (Expression.negation (.grouped (.literal pointed))).core? = some pointed := rfl
  have fencedCore : (Expression.literal fencedCall).core? = some fencedCall := rfl
  have pointToken : standalone.IsToken pointed := rfl
  have fencedToken : standalone.IsToken fencedCall := rfl
  have pointRead : standalone.arguments?
      [.mark '-' .alone, .group .invisible [.literal pointed]] =
        some [.negation (.grouped (.literal pointed))] :=
    arguments?_of_expression? (by simp) rfl
  have fencedRead : standalone.arguments? [.literal fencedCall] = some [.literal fencedCall] :=
    arguments?_of_expression? (by simp) rfl
  obtain ⟨_, pointCall⟩ := expandTrees_verbatim standalone cuts writes pointCore pointToken
  obtain ⟨_, fencedCalls⟩ := expandTrees_verbatim standalone cuts writes fencedCore fencedToken
  obtain ⟨signs, length, point⟩ := pointCall .negative
  obtain ⟨none, noMinus, fenced⟩ := fencedCalls .nonEmptyString
  obtain rfl := List.length_eq_zero_iff.mp noMinus
  refine ⟨cuts, writes, pointToken, fencedToken, pointRead, ⟨signs, length, ?_⟩, ?_⟩
  · obtain ⟨_, emits, reads⟩ := point []
    rw [reads _ pointRead]
    exact (emits _).mpr ⟨exists_ok_of_toBool (by decide +kernel), rfl⟩
  · obtain ⟨_, emits, reads⟩ := fenced []
    rw [reads _ fencedRead]
    exact (emits _).mpr ⟨exists_ok_of_toBool (by decide +kernel), rfl⟩

end FrontEnd

end CheckedLiterals
