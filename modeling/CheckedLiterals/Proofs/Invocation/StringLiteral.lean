import CheckedLiterals.Proofs.Invocation.Numeric
import CheckedLiterals.Proofs.Invocation.Verbatim

namespace CheckedLiterals

/-!
# String literals are judged by their value

However a string literal is spelled, the string kind rejects it just where its value is empty, and
every numeric kind rejects it.  This takes no knowledge of the front end.  For the acceptance of all
others to stand, the constructor call on the literal has to be cut into tokens again, which it is
where the literal is a token by itself.
-/

namespace FrontEnd

variable {frontEnd : FrontEnd}

/-- What arguments come to, whatever tokens are emitted. -/
def verdict
    (frontEnd : FrontEnd)
    (kind : Kind)
    (arguments : List Expression) :
    Except InvocationError Unit :=
  (frontEnd.expandExpressions kind arguments).map fun _ => ()

/-- How a string with the value is judged. -/
def stringVerdict (kind : Kind) (value : List Char) : Except InvocationError Unit :=
  if kind.isNumeric then .error (.rejected .notNumberLiteral)
  else if value = [] then .error (.rejected (.violation .empty))
  else .ok ()

variable
  {first : Expression}
  {value : List Char}
  (isString : first.stringValue? = some value)

include isString

/-- The string kind refuses a string just where its value is empty. -/
theorem isRefusedAsEmpty_iff_of_stringValue? : frontEnd.IsRefusedAsEmpty first ↔ value = [] := by
  simp [IsRefusedAsEmpty, isString]

theorem expandExpressions_eq_empty_iff
    (rest : List Expression) :
    frontEnd.expandExpressions .nonEmptyString (first :: rest) =
        .error (.rejected (.violation .empty)) ↔
      value = [] := by
  rw [expandExpressions_eq_rejected_iff, (check_nonEmptyString first).2]
  exact isRefusedAsEmpty_iff_of_stringValue? isString

variable
  (cuts : frontEnd.CutsCalls)
  (writes : frontEnd.WritesLiterals)
  (isToken : ∀ written, first.core? = some written → frontEnd.IsToken written)

include cuts writes isToken

/-- For a string that is a token, the constructor call can be put out if there is a character. -/
theorem exists_emitted_of_stringValue?
    (hasCharacter : value ≠ [])
    (rest : List Expression) :
    ∃ emitted, frontEnd.expandExpressions .nonEmptyString (first :: rest) = .ok emitted := by
  obtain ⟨written, isCore, _, _⟩ := Expression.exists_core?_of_stringValue? isString
  obtain ⟨signs, _, emits⟩ :=
    exists_emitted?_of_core? cuts writes (isToken written isCore) isCore .nonEmptyString
  have passes := (@check_nonEmptyString frontEnd first).1.mpr
    (mt (isRefusedAsEmpty_iff_of_stringValue? isString).mp hasCharacter)
  exact ⟨_, expandExpressions_eq_ok_iff.mpr ⟨first, rest, rfl, passes, emits⟩⟩

/-- The verdict on a string is one on its value. -/
theorem verdict_of_stringValue?
    (kind : Kind)
    (rest : List Expression) :
    frontEnd.verdict kind (first :: rest) = stringVerdict kind value := by
  rw [verdict, stringVerdict]
  cases numeric : kind.isNumeric with
  | true =>
      rw [expandExpressions_of_stringValue? isString numeric rest]
      rfl
  | false =>
      obtain rfl := Kind.eq_nonEmptyString_of_isNumeric numeric
      by_cases isEmpty : value = []
      · rw [(expandExpressions_eq_empty_iff isString rest).mpr isEmpty]
        simp [isEmpty, Except.map]
      · obtain ⟨emitted, emits⟩ :=
          exists_emitted_of_stringValue? isString cuts writes isToken isEmpty rest
        rw [emits]
        simp [isEmpty, Except.map]

omit isString cuts writes isToken

/--
Whatever the front end is, if the first argument is a string, in groups or not, every numeric kind
rejects it as no number literal, and the string kind rejects it as empty just where its value is.
If calls are cut at sight, literals are written as they are spelled, and the string is a token by
itself, the string kind emits tokens just where the value has a character, which is just where the
run-time predicate accepts it; and every other string with the same value, whatever its spelling
and the groups around it, comes to the same for every kind.  All of this is so for every stream
that is read as these arguments.
-/
theorem expandTrees_string
    (frontEnd : FrontEnd)
    {first : Expression}
    {value : List Char}
    (isString : first.stringValue? = some value)
    (rest : List Expression) :
    (∀ kind : Kind,
        kind.isNumeric = true →
          frontEnd.expandExpressions kind (first :: rest) =
            .error (.rejected .notNumberLiteral)) ∧
      (frontEnd.expandExpressions .nonEmptyString (first :: rest) =
          .error (.rejected (.violation .empty)) ↔
        value = []) ∧
      (frontEnd.CutsCalls →
        frontEnd.WritesLiterals →
          (∀ written, first.core? = some written → frontEnd.IsToken written) →
            ((∃ emitted,
                frontEnd.expandExpressions .nonEmptyString (first :: rest) = .ok emitted) ↔
              value ≠ []) ∧
            ((∃ emitted,
                frontEnd.expandExpressions .nonEmptyString (first :: rest) = .ok emitted) ↔
              Refined.check (Predicate.nonEmpty String.toList) (String.ofList value) =
                .ok { value := String.ofList value, provenance := .checked }) ∧
            ∀ (other : Expression) (more : List Expression),
              other.stringValue? = some value →
                (∀ written, other.core? = some written → frontEnd.IsToken written) →
                ∀ kind : Kind,
                  frontEnd.verdict kind (first :: rest) =
                    frontEnd.verdict kind (other :: more)) ∧
      ∀ trees,
        frontEnd.arguments? trees = some (first :: rest) →
          ∀ kind : Kind,
            frontEnd.expandTrees kind trees =
              frontEnd.expandExpressions kind (first :: rest) := by
  refine ⟨fun kind numeric => expandExpressions_of_stringValue? isString numeric rest,
    expandExpressions_eq_empty_iff isString rest, fun cuts writes isToken => ?_,
    fun trees read kind => expandTrees_of_arguments? kind read⟩
  have accepted :
      (∃ emitted, frontEnd.expandExpressions .nonEmptyString (first :: rest) = .ok emitted) ↔
        value ≠ [] := by
    constructor
    · rintro ⟨emitted, emits⟩ isEmpty
      rw [(expandExpressions_eq_empty_iff isString rest).mpr isEmpty] at emits
      cases emits
    · intro hasCharacter
      exact exists_emitted_of_stringValue? isString cuts writes isToken hasCharacter rest
  refine ⟨accepted, accepted.trans (refine_nonEmpty_iff value).symm, ?_⟩
  intro other more alsoString alsoToken kind
  rw [verdict_of_stringValue? isString cuts writes isToken,
    verdict_of_stringValue? alsoString cuts writes alsoToken]

/-- A string that is nothing but joined lines. -/
def joinedLines : Literal :=
  { form := .string [], spelling := "\"\\\n  \"".toList }

/-- A raw string with nothing between its fences, and a suffix. -/
def fencedNothing : Literal :=
  { form := .string [], spelling := "r##\"\"##suffix".toList }

/-- Joined lines in a group and a fenced raw text both spell the empty string. -/
theorem expandTrees_string_joinedLines :
    standalone.CutsCalls ∧
      standalone.WritesLiterals ∧
      standalone.IsToken joinedLines ∧
      standalone.IsToken fencedNothing ∧
      standalone.arguments? [.group .invisible [.literal joinedLines]] =
        some [.grouped (.literal joinedLines)] ∧
      standalone.expandTrees .nonEmptyString [.group .invisible [.literal joinedLines]] =
        .error (.rejected (.violation .empty)) ∧
      standalone.expandTrees .positive [.group .invisible [.literal joinedLines]] =
        .error (.rejected .notNumberLiteral) ∧
      standalone.verdict .nonEmptyString [.grouped (.literal joinedLines)] =
        standalone.verdict .nonEmptyString [.literal fencedNothing] := by
  have cuts := cutsCalls_standalone
  have writes := writesLiterals_standalone
  have joinedToken : standalone.IsToken joinedLines := rfl
  have fencedToken : standalone.IsToken fencedNothing := rfl
  have read : standalone.arguments? [.group .invisible [.literal joinedLines]] =
      some [.grouped (.literal joinedLines)] :=
    arguments?_of_expression? (by simp) rfl
  have isString : (Expression.grouped (.literal joinedLines)).stringValue? = some [] := rfl
  obtain ⟨numeric, isEmpty, judged, streams⟩ := expandTrees_string standalone isString []
  have isToken : ∀ written,
      (Expression.grouped (.literal joinedLines)).core? = some written →
        standalone.IsToken written := by
    rintro written ⟨⟩
    exact joinedToken
  have alsoToken : ∀ written,
      (Expression.literal fencedNothing).core? = some written → standalone.IsToken written := by
    rintro written ⟨⟩
    exact fencedToken
  obtain ⟨_, _, same⟩ := judged cuts writes isToken
  refine ⟨cuts, writes, joinedToken, fencedToken, read, ?_, ?_,
    same (.literal fencedNothing) [] rfl alsoToken .nonEmptyString⟩
  · rw [streams _ read]
    exact isEmpty.mpr rfl
  · rw [streams _ read]
    exact numeric .positive rfl

end FrontEnd

end CheckedLiterals
