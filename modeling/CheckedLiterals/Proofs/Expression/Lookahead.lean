import CheckedLiterals.Expression.Operator

namespace CheckedLiterals.Trees

/-!
# Looking ahead up to a comma

Where an argument ends, the stream ends or a comma stands.  No operator holds a comma, and
so what is looked up at the beginning of a stream is found there as well, and only there,
if an argument ends behind it.
-/

/-- Whether a stream has come to its end or to a comma. -/
def EndsArgument (tail : Trees) : Prop :=
  tail = [] ∨ ∃ spacing rest, tail = .mark ',' spacing :: rest

theorem endsArgument_nil : EndsArgument [] :=
  .inl rfl

theorem endsArgument_comma
    (spacing : Spacing)
    (rest : Trees) :
    EndsArgument (.mark ',' spacing :: rest) :=
  .inr ⟨spacing, rest, rfl⟩

/-- What a stream does not begin with, it does not begin with if an argument ends behind it. -/
theorem EndsArgument.append_ne
    {trees tail : Trees}
    {head : TokenTree}
    (ends : EndsArgument tail)
    (noComma : ∀ spacing, head ≠ .mark ',' spacing)
    (notFirst : ∀ rest, trees = head :: rest → False)
    (rest : Trees) :
    trees ++ tail = head :: rest → False := by
  intro shape
  cases trees with
  | nil =>
      rcases ends with rfl | ⟨spacing, behind, rfl⟩
      · cases shape
      · exact noComma spacing (List.cons.inj shape).1.symm
  | cons first others =>
      obtain ⟨rfl, _⟩ := List.cons.inj shape
      exact notFirst others rfl

/-- A first token that is not walled in stays first. -/
theorem exposed_append_of_ne_nil
    {trees : Trees}
    (tail : Trees)
    (starts : exposed trees ≠ []) :
    exposed (trees ++ tail) = exposed trees ++ tail := by
  induction trees with
  | nil => exact absurd rfl starts
  | cons tree rest later =>
      rw [exposed] at starts
      rw [List.cons_append, exposed, exposed]
      cases first : exposedTree tree with
      | nil =>
          rw [first] at starts
          exact later starts
      | cons head others => simp

theorem exposed_append_of_eq_nil
    {trees : Trees}
    (tail : Trees)
    (empty : exposed trees = []) :
    exposed (trees ++ tail) = exposed tail := by
  induction trees with
  | nil => rfl
  | cons tree rest later =>
      rw [exposed] at empty
      rw [List.cons_append, exposed]
      cases first : exposedTree tree with
      | nil =>
          rw [first] at empty
          exact later empty
      | cons head others =>
          rw [first] at empty
          cases empty

theorem exposed_ne_nil_of_afterSymbol?
    {symbol : Char}
    {more : List Char}
    {trees rest : Trees}
    (found : afterSymbol? (symbol :: more) trees = some rest) :
    exposed trees ≠ [] := by
  intro empty
  rw [afterSymbol?, empty] at found
  cases found

/-- Where a stream starts with a token, a comma is found there or not at all. -/
theorem afterSymbol?_comma_append
    {trees : Trees}
    (tail : Trees)
    (starts : exposed trees ≠ []) :
    afterSymbol? [','] (trees ++ tail) = (afterSymbol? [','] trees).map (· ++ tail) := by
  rw [afterSymbol?, afterSymbol?, exposed_append_of_ne_nil tail starts]
  cases first : exposed trees with
  | nil => exact absurd first starts
  | cons head others =>
      cases head with
      | mark found spacing =>
          rw [List.cons_append]
          simp only
          split <;> rfl
      | _ => rfl

variable
  {tail : Trees}
  (ends : EndsArgument tail)

include ends

theorem EndsArgument.exposed : Trees.exposed tail = tail := by
  rcases ends with rfl | ⟨spacing, rest, rfl⟩ <;> rfl

/-- Marks without a comma are found in front of the end of an argument, and not beyond it. -/
theorem afterSymbol?_append
    {symbol : List Char}
    (noComma : ',' ∉ symbol)
    (trees : Trees) :
    afterSymbol? symbol (trees ++ tail) = (afterSymbol? symbol trees).map (· ++ tail) := by
  induction symbol generalizing trees with
  | nil => rfl
  | cons c more later =>
      obtain ⟨notFirst, noMore⟩ := not_or.mp (mt List.mem_cons.mpr noComma)
      rw [afterSymbol?, afterSymbol?]
      cases first : exposed trees with
      | nil =>
          rw [exposed_append_of_eq_nil tail first, ends.exposed]
          rcases ends with rfl | ⟨spacing, rest, rfl⟩
          · rfl
          · simp [notFirst]
      | cons head others =>
          rw [exposed_append_of_ne_nil tail (by simp [first]), first, List.cons_append]
          cases head with
          | mark found spacing =>
              simp only
              split
              · exact later noMore others
              · rfl
          | _ => rfl

theorem startsWith_append
    {symbol : String}
    (noComma : ',' ∉ symbol.toList)
    (trees : Trees) :
    startsWith symbol (trees ++ tail) = startsWith symbol trees := by
  rw [startsWith, startsWith, afterSymbol?_append ends noComma, Option.isSome_map]

theorem afterWord?_append
    (word : String)
    (trees : Trees) :
    afterWord? word (trees ++ tail) = (afterWord? word trees).map (· ++ tail) := by
  rw [afterWord?, afterWord?]
  cases first : exposed trees with
  | nil =>
      rw [exposed_append_of_eq_nil tail first, ends.exposed]
      rcases ends with rfl | ⟨spacing, rest, rfl⟩ <;> rfl
  | cons head others =>
      rw [exposed_append_of_ne_nil tail (by simp [first]), first, List.cons_append]
      cases head with
      | name text =>
          simp only
          split <;> rfl
      | _ => rfl

theorem startsWithWord_append
    (word : String)
    (trees : Trees) :
    startsWithWord word (trees ++ tail) = startsWithWord word trees := by
  rw [startsWithWord, startsWithWord, afterWord?_append ends, Option.isSome_map]

theorem enclosed?_append
    (delimiter : Delimiter)
    (trees : Trees) :
    enclosed? delimiter (trees ++ tail) =
      (enclosed? delimiter trees).map fun (content, rest) => (content, rest ++ tail) := by
  rw [enclosed?, enclosed?]
  cases first : exposed trees with
  | nil =>
      rw [exposed_append_of_eq_nil tail first, ends.exposed]
      rcases ends with rfl | ⟨spacing, rest, rfl⟩ <;> rfl
  | cons head others =>
      rw [exposed_append_of_ne_nil tail (by simp [first]), first, List.cons_append]
      cases head with
      | group found content =>
          simp only
          split <;> rfl
      | _ => rfl

/-- The operator at the beginning of a stream is the same if an argument ends behind it. -/
theorem operator?_append (trees : Trees) :
    operator? (trees ++ tail) =
      (operator? trees).map fun (operator, rest) => (operator, rest ++ tail) := by
  have noComma : ∀ operator ∈ Operator.all, ',' ∉ operator.symbol := by decide
  rw [operator?, operator?]
  generalize Operator.all = operators at noComma
  induction operators with
  | nil => rfl
  | cons operator others later =>
      obtain ⟨first, more⟩ := List.forall_mem_cons.mp noComma
      rw [List.findSome?_cons, List.findSome?_cons, afterSymbol?_append ends first]
      cases afterSymbol? operator.symbol trees with
      | none => exact later more
      | some rest => rfl

theorem startsAssignment_append (trees : Trees) :
    startsAssignment (trees ++ tail) = startsAssignment trees := by
  rw [startsAssignment, startsAssignment, startsWith_append ends (by decide),
    startsWith_append ends (by decide)]

theorem nextLevel_append (trees : Trees) : nextLevel (trees ++ tail) = nextLevel trees := by
  rw [nextLevel, nextLevel, operator?_append ends, startsAssignment_append ends,
    startsWith_append ends (by decide), startsWithWord_append ends]
  cases operator? trees <;> rfl

theorem rangeMarks?_append (trees : Trees) :
    rangeMarks? (trees ++ tail) =
      (rangeMarks? trees).map fun (marks, rest) => (marks, rest ++ tail) := by
  rw [rangeMarks?, rangeMarks?, afterSymbol?_append ends (by decide),
    afterSymbol?_append ends (by decide), startsWith_append ends (by decide)]
  cases afterSymbol? "..=".toList trees with
  | some rest => rfl
  | none =>
      cases afterSymbol? "..".toList trees <;>
        cases startsWith "..." trees <;> rfl

/-- A half-open range ends with the argument; else what follows decides it as it did. -/
theorem endsRange_append
    {trees : Trees}
    (starts : trees = [] ∨ exposed trees ≠ []) :
    endsRange (trees ++ tail) = endsRange trees := by
  rcases starts with rfl | starts
  · rcases ends with rfl | ⟨spacing, rest, rfl⟩
    · rfl
    · rfl
  · have comma : startsWith "," (trees ++ tail) = startsWith "," trees := by
      rw [startsWith, startsWith, show ",".toList = [','] from rfl,
        afterSymbol?_comma_append tail starts, Option.isSome_map]
    have joined : (trees ++ tail).isEmpty = trees.isEmpty := by
      cases trees with
      | nil => exact absurd rfl starts
      | cons => rfl
    rw [endsRange, endsRange, joined, comma, startsWithWord_append ends]
    repeat rw [startsWith_append ends (by decide)]

end CheckedLiterals.Trees
