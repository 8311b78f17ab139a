import CheckedLiterals.Proofs.Expression.Parts

namespace CheckedLiterals

/-!
# What a reader leaves

A stream weighs what its tokens weigh, and a group more than its content.  Looking into invisible
groups adds no weight, and so what a reader leaves is never heavier than what it was given.
-/

namespace TokenTree

@[simp, grind =] theorem weight_name (text : List Char) : (TokenTree.name text).weight = 1 :=
  rfl

@[simp, grind =] theorem weight_mark
    (symbol : Char)
    (spacing : Spacing) :
    (TokenTree.mark symbol spacing).weight = 1 :=
  rfl

@[simp, grind =] theorem weight_literal
    (written : Literal) :
    (TokenTree.literal written).weight = 1 :=
  rfl

@[simp, grind =] theorem weight_group
    (delimiter : Delimiter)
    (content : Trees) :
    (TokenTree.group delimiter content).weight = weightOfList content + 2 := by
  rw [weight]

@[simp, grind =] theorem weightOfList_nil : weightOfList [] = 0 :=
  rfl

@[simp, grind =] theorem weightOfList_cons
    (tree : TokenTree)
    (rest : Trees) :
    weightOfList (tree :: rest) = tree.weight + weightOfList rest := by
  rw [weightOfList]

theorem weightOfList_append (front back : Trees) :
    weightOfList (front ++ back) = weightOfList front + weightOfList back := by
  induction front with
  | nil => simp [weightOfList]
  | cons tree rest joined =>
      rw [List.cons_append, weightOfList, joined, weightOfList, Nat.add_assoc]

end TokenTree

namespace Trees

open TokenTree (weight weightOfList weightOfList_append weight_name weight_mark)

mutual

theorem weight_exposedTree_le :
    ∀ tree : TokenTree, weightOfList (exposedTree tree) ≤ tree.weight
  | .group .invisible content => by
      rw [exposedTree, weight]
      exact Nat.le_add_right_of_le (weight_exposed_le content)
  | .name _ => Nat.le_refl _
  | .mark _ _ => Nat.le_refl _
  | .literal _ => Nat.le_refl _
  | .group .parenthesis _ => Nat.le_refl _
  | .group .bracket _ => Nat.le_refl _
  | .group .brace _ => Nat.le_refl _

theorem weight_exposed_le :
    ∀ trees : Trees, weightOfList (exposed trees) ≤ weightOfList trees
  | [] => Nat.le_refl _
  | tree :: rest => by
      have first := weight_exposedTree_le tree
      have later := weight_exposed_le rest
      rw [exposed, weightOfList]
      split
      · omega
      · case h_2 shape =>
          rw [shape, weightOfList] at first
          rw [weightOfList, weightOfList_append]
          omega

end

/-- What is behind the first token of a stream is lighter than the stream. -/
@[grind →] theorem weight_of_exposed
    {trees rest : Trees}
    {head : TokenTree}
    (first : exposed trees = head :: rest) :
    head.weight + weightOfList rest ≤ weightOfList trees := by
  have lighter := weight_exposed_le trees
  rwa [first, weightOfList] at lighter

@[grind →] theorem weight_of_afterSymbol?
    {symbol : List Char}
    {trees rest : Trees}
    (found : afterSymbol? symbol trees = some rest) :
    weightOfList rest + symbol.length ≤ weightOfList trees := by
  induction symbol generalizing trees with
  | nil => cases found; exact Nat.le_refl _
  | cons c more later =>
      rw [afterSymbol?] at found
      split at found
      · case h_1 first =>
          split at found
          · have lighter := weight_of_exposed first
            have behind := later found
            rw [weight_mark] at lighter
            rw [List.length_cons]
            omega
          · cases found
      · cases found

@[grind →] theorem weight_of_afterWord?
    {word : String}
    {trees rest : Trees}
    (found : afterWord? word trees = some rest) :
    weightOfList rest < weightOfList trees := by
  rw [afterWord?] at found
  split at found
  · case h_1 first =>
      split at found
      · cases found
        have lighter := weight_of_exposed first
        rw [weight_name] at lighter
        omega
      · cases found
  · cases found

@[grind →] theorem weight_of_enclosed?
    {delimiter : Delimiter}
    {trees content rest : Trees}
    (found : enclosed? delimiter trees = some (content, rest)) :
    weightOfList content + weightOfList rest < weightOfList trees := by
  rw [enclosed?] at found
  split at found
  · case h_1 first =>
      split at found
      · cases found
        have lighter := weight_of_exposed first
        rw [weight] at lighter
        omega
      · cases found
  · cases found

@[grind →] theorem weight_of_operator?
    {trees rest : Trees}
    {operator : Operator}
    (found : operator? trees = some (operator, rest)) :
    weightOfList rest < weightOfList trees := by
  have notEmpty : ∀ operator ∈ Operator.all, 0 < operator.symbol.length := by decide
  obtain ⟨candidate, member, isFound⟩ := List.exists_of_findSome?_eq_some found
  obtain ⟨behind, after, shape⟩ := Option.map_eq_some_iff.mp isFound
  cases shape
  have lighter := weight_of_afterSymbol? after
  have length := notEmpty _ member
  omega

@[grind →] theorem weight_of_rangeMarks?
    {trees rest : Trees}
    {marks : List Char}
    (found : rangeMarks? trees = some (marks, rest)) :
    weightOfList rest < weightOfList trees := by
  rw [rangeMarks?] at found
  split at found
  · case h_1 after =>
      cases found
      have lighter := weight_of_afterSymbol? after
      rw [show "..=".toList.length = 3 from rfl] at lighter
      omega
  · split at found
    · cases found
    · obtain ⟨behind, after, shape⟩ := Option.map_eq_some_iff.mp found
      cases shape
      have lighter := weight_of_afterSymbol? after
      rw [show "..".toList.length = 2 from rfl] at lighter
      omega

end Trees

namespace Expression

open Trees
open TokenTree (weightOfList)

theorem weight_leadingColons_le (trees : Trees) :
    weightOfList (leadingColons trees).2 ≤ weightOfList trees := by
  rw [leadingColons]
  split
  · case h_1 after => exact Nat.le_of_add_right_le (weight_of_afterSymbol? after)
  · exact Nat.le_refl _

@[grind →] theorem weight_of_afterPath?
    {tokens trees rest : Trees}
    {isPlain : Bool}
    {expression : Expression}
    (read : afterPath? tokens isPlain trees = some (expression, rest)) :
    weightOfList rest ≤ weightOfList trees := by
  rw [afterPath?] at read
  split at read
  · split at read
    · case h_1 first =>
        cases read
        obtain ⟨called, after, shape⟩ := Option.map_eq_some_iff.mp first
        have behind := weight_of_exposed shape
        have lighter := weight_of_afterSymbol? after
        omega
    · cases read
  · cases read
    exact Nat.le_refl _

/-- Whether a reader leaves nothing heavier than what it was given. -/
def LeavesNoMore
    {Value : Type}
    (reader : Trees → Option (Value × Trees)) :
    Prop :=
  ∀ ⦃trees rest : Trees⦄ ⦃value : Value⦄,
    reader trees = some (value, rest) → weightOfList rest ≤ weightOfList trees

/-- So for readers of paths. -/
def LeavesNoMoreOfPath (reader : Trees → Option (Trees × Bool × Trees)) : Prop :=
  ∀ ⦃trees tokens rest : Trees⦄ ⦃isPlain : Bool⦄,
    reader trees = some (tokens, isPlain, rest) → weightOfList rest ≤ weightOfList trees

/-- Whether every reader, at some depth, leaves nothing heavier than what it was given. -/
structure Leaves (steps : Nat) : Prop where
  type : LeavesNoMore (type? steps)
  genericArguments : LeavesNoMore (genericArguments? steps)
  generics : LeavesNoMore (generics? steps)
  segment : ∀ inType, LeavesNoMoreOfPath (segment? steps inType)
  moreSegments : ∀ inType, LeavesNoMoreOfPath (moreSegments? steps inType)
  path : ∀ inType, LeavesNoMoreOfPath (path? steps inType)
  qualifiedPath : ∀ inType, LeavesNoMoreOfPath (qualifiedPath? steps inType)
  attributes : LeavesNoMore (attributes? steps)
  expression : LeavesNoMore (expression? steps)
  prefixed : LeavesNoMore (prefixed? steps)
  unary : LeavesNoMore (unary? steps)
  atom : LeavesNoMore (atom? steps)
  trailing : ∀ operand, LeavesNoMore (trailing? steps operand)
  member : ∀ tokens, LeavesNoMore (member? steps tokens)
  namedMember : ∀ tokens, LeavesNoMore (namedMember? steps tokens)
  rangeEnd : ∀ marks, LeavesNoMore (rangeEnd? steps marks)
  operand : ∀ level, LeavesNoMore (operand? steps level)
  tighten : ∀ level operand, LeavesNoMore (tighten? steps level operand)
  climb : ∀ left level, LeavesNoMore (climb? steps left level)

namespace Leaves

variable
  {steps : Nat}
  (leaves : Leaves steps)

include leaves

theorem type_succ : LeavesNoMore (type? (steps + 1)) := by
  have type := leaves.type
  have path := leaves.path
  simp only [LeavesNoMore, LeavesNoMoreOfPath] at type path
  intro trees rest tokens read
  unfold type? at read
  split at read
  all_goals grind [Option.map_eq_some_iff, Option.bind_eq_some_iff]

theorem genericArguments_succ : LeavesNoMore (genericArguments? (steps + 1)) := by
  have type := leaves.type
  have others := leaves.genericArguments
  simp only [LeavesNoMore] at type others
  intro trees rest tokens read
  rw [genericArguments?_succ] at read
  grind [genericArgument?, Option.map_eq_some_iff]

theorem generics_succ : LeavesNoMore (generics? (steps + 1)) := by
  have arguments := leaves.genericArguments
  simp only [LeavesNoMore] at arguments
  intro trees rest tokens read
  have colons := weight_leadingColons_le trees
  rw [generics?_succ] at read
  grind [Option.map_eq_some_iff, Option.bind_eq_some_iff]

theorem segment_succ (inType : Bool) : LeavesNoMoreOfPath (segment? (steps + 1) inType) := by
  have generics := leaves.generics
  simp only [LeavesNoMore] at generics
  intro trees tokens rest isPlain read
  rw [segment?] at read
  grind [Option.map_eq_some_iff]

theorem moreSegments_succ
    (inType : Bool) :
    LeavesNoMoreOfPath (moreSegments? (steps + 1) inType) := by
  have segment := leaves.segment inType
  have others := leaves.moreSegments inType
  simp only [LeavesNoMoreOfPath] at segment others
  intro trees tokens rest isPlain read
  rw [moreSegments?] at read
  grind [Option.map_eq_some_iff]

theorem path_succ (inType : Bool) : LeavesNoMoreOfPath (path? (steps + 1) inType) := by
  have segment := leaves.segment inType
  have others := leaves.moreSegments inType
  have qualified := leaves.qualifiedPath inType
  simp only [LeavesNoMoreOfPath] at segment others qualified
  intro trees tokens rest isPlain read
  have colons := weight_leadingColons_le trees
  rw [path?_succ] at read
  grind [Option.map_eq_some_iff]

theorem qualifiedPath_succ
    (inType : Bool) :
    LeavesNoMoreOfPath (qualifiedPath? (steps + 1) inType) := by
  have type := leaves.type
  have path := leaves.path true
  have others := leaves.moreSegments inType
  simp only [LeavesNoMore, LeavesNoMoreOfPath] at type path others
  intro trees tokens rest isPlain read
  rw [qualifiedPath?_succ] at read
  grind [conversion?, Option.map_eq_some_iff, Option.bind_eq_some_iff]

theorem attributes_succ : LeavesNoMore (attributes? (steps + 1)) := by
  have others := leaves.attributes
  simp only [LeavesNoMore] at others
  intro trees rest tokens read
  unfold attributes? at read
  grind

theorem expression_succ : LeavesNoMore (expression? (steps + 1)) := by
  have operand := leaves.prefixed
  have climb := leaves.climb
  simp only [LeavesNoMore] at operand climb
  intro trees rest expression read
  rw [expression?] at read
  grind

theorem prefixed_succ : LeavesNoMore (prefixed? (steps + 1)) := by
  have attributes := leaves.attributes
  have operand := leaves.unary
  simp only [LeavesNoMore] at attributes operand
  intro trees rest expression read
  rw [prefixed?] at read
  grind [Option.map_eq_some_iff]

theorem unary_succ : LeavesNoMore (unary? (steps + 1)) := by
  have operand := leaves.prefixed
  have atom := leaves.atom
  have trailing := leaves.trailing
  simp only [LeavesNoMore] at operand atom trailing
  intro trees rest expression read
  unfold unary? at read
  split at read
  all_goals grind [Option.map_eq_some_iff]

theorem atom_succ : LeavesNoMore (atom? (steps + 1)) := by
  have path := leaves.path false
  have others := leaves.moreSegments false
  have rangeEnd := leaves.rangeEnd
  simp only [LeavesNoMore, LeavesNoMoreOfPath] at path others rangeEnd
  intro trees rest expression read
  unfold atom? at read
  split at read
  all_goals grind [Option.map_eq_some_iff]

theorem trailing_succ
    (operand : Expression) :
    LeavesNoMore (trailing? (steps + 1) operand) := by
  have member := leaves.member
  have others := leaves.trailing
  simp only [LeavesNoMore] at member others
  intro trees rest expression read
  rw [trailing?] at read
  grind

theorem member_succ (tokens : Trees) : LeavesNoMore (member? (steps + 1) tokens) := by
  have named := leaves.namedMember
  simp only [LeavesNoMore] at named
  intro trees rest more read
  rw [member?] at read
  grind

theorem namedMember_succ (tokens : Trees) : LeavesNoMore (namedMember? (steps + 1) tokens) := by
  have generics := leaves.generics
  simp only [LeavesNoMore] at generics
  intro trees rest more read
  rw [namedMember?_succ] at read
  grind [optionalGenerics?, Option.map_eq_some_iff]

theorem rangeEnd_succ (marks : List Char) : LeavesNoMore (rangeEnd? (steps + 1) marks) := by
  have operand := leaves.operand
  simp only [LeavesNoMore] at operand
  intro trees rest tokens read
  rw [rangeEnd?] at read
  grind [Option.map_eq_some_iff]

theorem operand_succ (level : Level) : LeavesNoMore (operand? (steps + 1) level) := by
  have operand := leaves.prefixed
  have tighten := leaves.tighten
  simp only [LeavesNoMore] at operand tighten
  intro trees rest expression read
  rw [operand?] at read
  grind

theorem tighten_succ
    (level : Level)
    (operand : Expression) :
    LeavesNoMore (tighten? (steps + 1) level operand) := by
  have climb := leaves.climb
  have others := leaves.tighten
  simp only [LeavesNoMore] at climb others
  intro trees rest expression read
  rw [tighten?] at read
  grind

theorem climb_succ
    (left : Expression)
    (level : Level) :
    LeavesNoMore (climb? (steps + 1) left level) := by
  have type := leaves.type
  have operand := leaves.operand
  have rangeEnd := leaves.rangeEnd
  have others := leaves.climb
  simp only [LeavesNoMore] at type operand rangeEnd others
  intro trees rest expression read
  rw [climb?] at read
  grind [Option.bind_eq_some_iff]

end Leaves

theorem leaves (steps : Nat) : Leaves steps := by
  induction steps with
  | zero => constructor <;> intros <;> intro _ _ <;> intros <;> contradiction
  | succ steps leaves =>
      exact
        { type := leaves.type_succ
          genericArguments := leaves.genericArguments_succ
          generics := leaves.generics_succ
          segment := leaves.segment_succ
          moreSegments := leaves.moreSegments_succ
          path := leaves.path_succ
          qualifiedPath := leaves.qualifiedPath_succ
          attributes := leaves.attributes_succ
          expression := leaves.expression_succ
          prefixed := leaves.prefixed_succ
          unary := leaves.unary_succ
          atom := leaves.atom_succ
          trailing := leaves.trailing_succ
          member := leaves.member_succ
          namedMember := leaves.namedMember_succ
          rangeEnd := leaves.rangeEnd_succ
          operand := leaves.operand_succ
          tighten := leaves.tighten_succ
          climb := leaves.climb_succ }

/-- Going on with an operand takes at least the operator from the stream. -/
theorem weight_lt_of_climb?_nextLevel
    {steps : Nat}
    {operand expression : Expression}
    {trees rest : Trees}
    (notRange : operand.isRange = false)
    (goesOn : nextLevel trees ≠ .loosest)
    (read : climb? steps operand (nextLevel trees) trees = some (expression, rest)) :
    weightOfList rest < weightOfList trees := by
  cases steps with
  | zero => cases read
  | succ steps =>
      have type := (leaves steps).type
      have operand := (leaves steps).operand
      have rangeEnd := (leaves steps).rangeEnd
      have others := (leaves steps).climb
      simp only [LeavesNoMore] at type operand rangeEnd others
      rw [climb?, notRange] at read
      simp only [nextLevel, startsWithWord] at goesOn read
      grind [Option.bind_eq_some_iff, Level.rank]

end Expression

end CheckedLiterals
