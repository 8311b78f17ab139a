import CheckedLiterals.Proofs.Invocation.NonEmpty
import CheckedLiterals.Proofs.Invocation.Standalone

namespace CheckedLiterals

/-!
# Arguments behind the first one

Where arguments end at commas, what follows an expression and a comma is read as if it stood alone.
So it decides only whether the arguments are read at all: if they are, the outcome is that of the
first one, and if they are not, no kind looks at any.  That no argument was given is said of no
tokens only, in every front end.
-/

/-- A literal that is checked is there. -/
theorem Kind.check_ne_missingArguments
    (kind : Kind)
    (text : String) :
    kind.check text ≠ .error .missingArguments := by
  intro missing
  rw [check] at missing
  split at missing
  · split at missing
    · cases missing
    · case h_2 number _ =>
        cases judged : kind.checkNumber number <;> rw [judged] at missing <;> cases missing
  · split at missing <;> cases missing

namespace FrontEnd

variable {frontEnd : FrontEnd}

/-- Arguments that are read from a stream are as many as none just where it is empty. -/
theorem arguments?_eq_nil_iff {trees : Trees} : frontEnd.arguments? trees = some [] ↔ trees = [] := by
  constructor
  · intro read
    rw [arguments?] at read
    split at read
    · case isTrue isEmpty => exact List.isEmpty_iff.mp isEmpty
    · split at read
      · cases read
      · cases read
      · split at read
        · cases read
        · split at read
          · obtain ⟨_, _, shape⟩ := Option.map_eq_some_iff.mp read
            cases shape
          · cases read
  · rintro rfl
    rw [arguments?]
    rfl

theorem expandTrees_eq_missingArguments_iff
    {kind : Kind}
    {trees : Trees} :
    frontEnd.expandTrees kind trees = .error (.rejected .missingArguments) ↔ trees = [] := by
  rw [← @arguments?_eq_nil_iff frontEnd, expandTrees]
  cases read : frontEnd.arguments? trees with
  | none => simp
  | some arguments =>
      cases arguments with
      | nil => simp [expandExpressions, Kind.expand, firstArgument]
      | cons first rest =>
          have present := kind.check_ne_missingArguments
            (String.ofList (frontEnd.checkedText first))
          simp only [expandExpressions_eq_rejected_iff, present, Option.some.injEq, reduceCtorEq]

variable
  (ends : frontEnd.EndsAtCommas)
  {core : Trees}
  {expression : Expression}
  (alone : frontEnd.expression? core = some (expression, []))

include ends alone

theorem EndsAtCommas.ne_nil : core ≠ [] := by
  rintro rfl
  rw [ends.needsToken] at alone
  cases alone

/-- Behind an expression and a comma, the other arguments are read as if they stood alone. -/
theorem EndsAtCommas.arguments?_append_comma
    (spacing : Spacing)
    (behind : Trees) :
    frontEnd.arguments? (core ++ .mark ',' spacing :: behind) =
      (frontEnd.arguments? behind).map (expression :: ·) := by
  have less : TokenTree.weightOfList behind <
      TokenTree.weightOfList (core ++ .mark ',' spacing :: behind) := by
    rw [TokenTree.weightOfList_append, TokenTree.weightOfList, TokenTree.weight]
    · omega
    · simp
  exact arguments?_of_afterComma? (ends.inFront core expression spacing behind alone) (by simp)
    (ends.comma spacing behind) less

/-- Arguments that are read do not change what comes of the first one. -/
theorem EndsAtCommas.expandTrees_append_comma
    (kind : Kind)
    (spacing : Spacing)
    {behind : Trees}
    {rest : List Expression}
    (read : frontEnd.arguments? behind = some rest) :
    frontEnd.expandTrees kind (core ++ .mark ',' spacing :: behind) =
      frontEnd.expandTrees kind core := by
  have joined := ends.arguments?_append_comma alone spacing behind
  rw [read, Option.map_some] at joined
  rw [expandTrees_of_arguments? kind joined,
    expandTrees_of_arguments? kind (arguments?_of_expression? (ends.ne_nil alone) alone),
    expandExpressions_cons, expandExpressions_cons]

omit ends alone

/--
Let the arguments of a front end end at commas.  Behind an expression and a comma, other arguments
are read exactly where they are read alone.  Then every kind makes of all of them what it makes of
the first one, and otherwise every kind finds them malformed, whatever it makes of the first one.
In every front end, no kind misses an argument but where there are no tokens.
-/
theorem expandTrees_laterArguments
    (frontEnd : FrontEnd) :
    (frontEnd.EndsAtCommas →
        ∀ (core behind : Trees) (expression : Expression) (spacing : Spacing),
          frontEnd.expression? core = some (expression, []) →
            frontEnd.arguments? core = some [expression] ∧
              frontEnd.arguments? (core ++ .mark ',' spacing :: behind) =
                (frontEnd.arguments? behind).map (expression :: ·) ∧
              ∀ kind : Kind,
                (frontEnd.arguments? behind ≠ none →
                  frontEnd.expandTrees kind (core ++ .mark ',' spacing :: behind) =
                    frontEnd.expandTrees kind core) ∧
                (frontEnd.arguments? (core ++ .mark ',' spacing :: behind) = none →
                  frontEnd.expandTrees kind (core ++ .mark ',' spacing :: behind) =
                    .error .malformed)) ∧
      ∀ (kind : Kind) (trees : Trees),
        frontEnd.expandTrees kind trees = .error (.rejected .missingArguments) ↔ trees = [] := by
  refine ⟨?_, fun kind trees => expandTrees_eq_missingArguments_iff⟩
  intro ends core behind expression spacing alone
  refine ⟨arguments?_of_expression? (ends.ne_nil alone) alone,
    ends.arguments?_append_comma alone spacing behind, fun kind => ⟨?_, ?_⟩⟩
  · intro read
    obtain ⟨rest, isRead⟩ := Option.ne_none_iff_exists'.mp read
    exact ends.expandTrees_append_comma alone kind spacing isRead
  · intro unread
    rw [expandTrees, unread]

/-- A cast to a type with two arguments, from which a range goes on without an end. -/
def castRange : Trees :=
  [.literal { form := .integer, spelling := ['0'] }, .name "as".toList, .name "Pair".toList,
    .mark '<' .alone, .name "u8".toList, .mark ',' .alone, .name "i8".toList, .mark '>' .alone,
    .mark '.' .joint, .mark '.' .alone]

/-- The range ends at a comma; a second comma behind it stands in front of no argument. -/
theorem expandTrees_laterArguments_castRange :
    standalone.EndsAtCommas ∧
      standalone.expression? castRange = some (.compound .range castRange, []) ∧
      standalone.arguments? [.name "u8".toList] = some [.compound .path [.name "u8".toList]] ∧
      standalone.arguments? [.mark ',' .alone, .name "u8".toList] = none ∧
      standalone.expandTrees .nonEmptyString
          (castRange ++ [.mark ',' .alone, .name "u8".toList]) =
        standalone.expandTrees .nonEmptyString castRange ∧
      standalone.expandTrees .nonEmptyString
          (castRange ++ [.mark ',' .alone, .mark ',' .alone, .name "u8".toList]) =
        .error .malformed := by
  have ends := endsAtCommas_standalone
  have alone : standalone.expression? castRange = some (.compound .range castRange, []) := rfl
  have another : standalone.arguments? [.name "u8".toList] =
      some [.compound .path [.name "u8".toList]] :=
    arguments?_of_expression? (by simp) rfl
  have unread : standalone.arguments? [.mark ',' .alone, .name "u8".toList] = none := by
    have noExpression : standalone.expression? [.mark ',' .alone, .name "u8".toList] = none := rfl
    rw [arguments?, noExpression]
    rfl
  obtain ⟨laterArguments, _⟩ := expandTrees_laterArguments standalone
  obtain ⟨_, _, outcome⟩ := laterArguments ends _ [.name "u8".toList] _ .alone alone
  obtain ⟨_, unjoined, noOutcome⟩ :=
    laterArguments ends _ [.mark ',' .alone, .name "u8".toList] _ .alone alone
  rw [unread] at unjoined
  exact ⟨ends, alone, another, unread,
    (outcome .nonEmptyString).1 (by rw [another]; exact Option.some_ne_none _),
    (noOutcome .nonEmptyString).2 unjoined⟩

end FrontEnd

end CheckedLiterals
