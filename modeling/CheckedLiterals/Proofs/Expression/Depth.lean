import CheckedLiterals.Proofs.Expression.Weight

namespace CheckedLiterals.Expression

/-!
# A depth that no descent exhausts

A reader descends by one step whenever it calls another one, and only so many calls follow
one another before a token is taken.  So sixteen steps for every token and a reserve for the
calls before the first one are enough: what is read at some depth is read at every depth past
this bound.
-/

open Trees
open TokenTree (weightOfList)

/-- Whether what a reader reads at a depth it reads at every depth past the bound with a reserve. -/
def Reaches
    {Value : Type}
    (reserve steps : Nat)
    (reader : Nat → Trees → Option Value) :
    Prop :=
  ∀ ⦃trees : Trees⦄ ⦃value : Value⦄ ⦃deep : Nat⦄,
    reader steps trees = some value →
      16 * weightOfList trees + reserve ≤ deep →
      reader deep trees = some value

theorem reaches_succ
    {Value : Type}
    {reserve steps : Nat}
    {reader : Nat → Trees → Option Value}
    (again : ∀ trees value deep,
      reader (steps + 1) trees = some value →
        16 * weightOfList trees + reserve ≤ deep →
        reader (deep + 1) trees = some value) :
    Reaches (reserve + 1) (steps + 1) reader := by
  intro trees value deep read enough
  obtain _ | deep := deep
  · omega
  · exact again trees value deep read (by omega)

/--
Whether every reader reads past its bound what it reads at some depth.  The reserve of a reader
is larger than that of each reader that it may call on the stream as it was given.
-/
structure ReachesAll (steps : Nat) : Prop where
  type : Reaches 3 steps type?
  types : Reaches 4 steps types?
  genericArguments : Reaches 4 steps genericArguments?
  generics : Reaches 1 steps generics?
  segment : ∀ inType, Reaches 1 steps fun steps => segment? steps inType
  moreSegments : ∀ inType, Reaches 1 steps fun steps => moreSegments? steps inType
  path : ∀ inType, Reaches 2 steps fun steps => path? steps inType
  qualifiedPath : ∀ inType, Reaches 4 steps fun steps => qualifiedPath? steps inType
  attributes : Reaches 1 steps attributes?
  attributeContent : Reaches 3 steps attributeContent?
  whole : Reaches 7 steps whole?
  elements : Reaches 7 steps elements?
  expression : Reaches 6 steps expression?
  prefixed : Reaches 5 steps prefixed?
  unary : Reaches 4 steps unary?
  atom : Reaches 3 steps atom?
  bracketed : Reaches 7 steps bracketed?
  trailing : ∀ operand, Reaches 1 steps fun steps => trailing? steps operand
  member : ∀ tokens, Reaches 2 steps fun steps => member? steps tokens
  namedMember : ∀ tokens, Reaches 1 steps fun steps => namedMember? steps tokens
  rangeEnd : ∀ marks, Reaches 7 steps fun steps => rangeEnd? steps marks
  operand : ∀ level, Reaches 6 steps fun steps => operand? steps level
  tighten : ∀ level operand, Reaches 2 steps fun steps => tighten? steps level operand
  climb : ∀ left level, Reaches 1 steps fun steps => climb? steps left level

namespace ReachesAll

variable
  {steps : Nat}
  (reaches : ReachesAll steps)

include reaches

theorem type_succ : Reaches 3 (steps + 1) type? := by
  have type := reaches.type
  have types := reaches.types
  have path := reaches.path
  have whole := reaches.whole
  have lighter := (leaves steps).type
  refine reaches_succ fun trees value deep read enough => ?_
  simp only [Reaches, LeavesNoMore] at *
  unfold type? at read
  split at read
  · cases ‹_ = 0›
  · case h_2 depth content behind sameDepth =>
      cases sameDepth
      rw [type?]
      grind
  · case h_3 depth content behind sameDepth =>
      cases sameDepth
      rw [type?]
      grind [Option.map_eq_some_iff]
  · case h_4 depth content behind sameDepth =>
      cases sameDepth
      rw [type?]
      grind [Option.bind_eq_some_iff]
  · case h_5 depth word behind sameDepth =>
      cases sameDepth
      rw [type?]
      grind [Option.map_eq_some_iff]
  · case h_6 depth sameDepth notInvisible notParenthesis notBracket notName =>
      cases sameDepth
      rw [type?]
      · split at read
        · grind [Option.map_eq_some_iff]
        · split at read
          · grind [Option.map_eq_some_iff]
          · cases read
          · grind [Option.map_eq_some_iff]
      · exact notInvisible
      · exact notParenthesis
      · exact notBracket
      · exact notName

theorem types_succ : Reaches 4 (steps + 1) types? := by
  have type := reaches.type
  have types := reaches.types
  have lighter := (leaves steps).type
  refine reaches_succ fun trees value deep read enough => ?_
  simp only [Reaches, LeavesNoMore] at *
  unfold types? at read
  split at read
  · cases ‹_ = 0›
  · cases read
    rfl
  · case h_3 depth sameDepth notEmpty =>
      cases sameDepth
      rw [types?]
      · grind [Option.map_eq_some_iff]
      · exact notEmpty

/-- One generic argument is read the same, and leaves nothing heavier. -/
theorem genericArgument
    {trees tokens rest : Trees}
    (deep : Nat)
    (read : genericArgument? steps trees = some (tokens, rest))
    (enough : 16 * weightOfList trees + 3 ≤ deep) :
    genericArgument? deep trees = some (tokens, rest) ∧
      weightOfList rest ≤ weightOfList trees := by
  have type := reaches.type
  have lighter := (leaves steps).type
  simp only [Reaches, LeavesNoMore] at type lighter
  rw [genericArgument?] at read ⊢
  grind

theorem genericArguments_succ : Reaches 4 (steps + 1) genericArguments? := by
  have others := reaches.genericArguments
  refine reaches_succ fun trees value deep read enough => ?_
  simp only [Reaches] at others
  rw [genericArguments?_succ] at read ⊢
  split at read
  · case isTrue closes => rw [if_pos closes, read]
  · case isFalse opens =>
      rw [if_neg opens]
      split at read
      · case h_1 argument behind found =>
          obtain ⟨again, lighter⟩ := reaches.genericArgument deep found (by omega)
          rw [again]
          grind [Option.map_eq_some_iff]
      · cases read

theorem generics_succ : Reaches 1 (steps + 1) generics? := by
  have arguments := reaches.genericArguments
  refine reaches_succ fun trees value deep read enough => ?_
  simp only [Reaches] at *
  have colons := weight_leadingColons_le trees
  rw [generics?_succ] at read ⊢
  grind [Option.bind_eq_some_iff]

theorem segment_succ
    (inType : Bool) :
    Reaches 1 (steps + 1) fun steps => segment? steps inType := by
  have generics := reaches.generics
  refine reaches_succ fun trees value deep read enough => ?_
  simp only [Reaches] at *
  rw [segment?] at read ⊢
  grind [Option.map_eq_some_iff]

theorem moreSegments_succ
    (inType : Bool) :
    Reaches 1 (steps + 1) fun steps => moreSegments? steps inType := by
  have segment := reaches.segment inType
  have others := reaches.moreSegments inType
  have lighter := (leaves steps).segment inType
  refine reaches_succ fun trees value deep read enough => ?_
  simp only [Reaches, LeavesNoMoreOfPath] at *
  rw [moreSegments?] at read ⊢
  split at read
  · split at read
    · grind
    · split at read
      · grind [Option.map_eq_some_iff]
      · cases read
  · grind

theorem path_succ (inType : Bool) : Reaches 2 (steps + 1) fun steps => path? steps inType := by
  have segment := reaches.segment inType
  have others := reaches.moreSegments inType
  have qualified := reaches.qualifiedPath inType
  have lighter := (leaves steps).segment inType
  refine reaches_succ fun trees value deep read enough => ?_
  simp only [Reaches, LeavesNoMoreOfPath] at *
  have colons := weight_leadingColons_le trees
  rw [path?_succ] at read ⊢
  grind [Option.map_eq_some_iff]

/-- What a qualifying type is converted to is read the same, and leaves nothing heavier. -/
theorem conversion
    {trees tokens rest : Trees}
    (deep : Nat)
    (read : conversion? steps trees = some (tokens, rest))
    (enough : 16 * weightOfList trees + 3 ≤ deep) :
    conversion? deep trees = some (tokens, rest) ∧ weightOfList rest ≤ weightOfList trees := by
  have path := reaches.path true
  have lighter := (leaves steps).path true
  simp only [Reaches, LeavesNoMoreOfPath] at path lighter
  rw [conversion?] at read ⊢
  grind [Option.map_eq_some_iff]

theorem qualifiedPath_succ
    (inType : Bool) :
    Reaches 4 (steps + 1) fun steps => qualifiedPath? steps inType := by
  have type := reaches.type
  have others := reaches.moreSegments inType
  have lighter := (leaves steps).type
  refine reaches_succ fun trees value deep read enough => ?_
  simp only [Reaches, LeavesNoMore] at type others lighter
  rw [qualifiedPath?_succ] at read ⊢
  split at read
  · case h_1 qualifying behind found =>
      rw [type found (by omega)]
      have lessBehind := lighter found
      dsimp only
      split at read
      · case h_1 converted remaining conversion =>
          obtain ⟨again, lessRemaining⟩ := reaches.conversion deep conversion (by omega)
          rw [again]
          dsimp only
          split at read
          · case h_1 more arePlain later segments =>
              obtain ⟨inner, isClosing, segmentsRead⟩ := Option.bind_eq_some_iff.mp segments
              have lessInner := weight_of_afterSymbol? isClosing
              rw [isClosing, Option.bind_some, others segmentsRead (by omega)]
              exact read
          · cases read
      · cases read
  · cases read

theorem attributes_succ : Reaches 1 (steps + 1) attributes? := by
  have content := reaches.attributeContent
  have others := reaches.attributes
  refine reaches_succ fun trees value deep read enough => ?_
  simp only [Reaches] at *
  unfold attributes? at read
  split at read
  · cases ‹_ = 0›
  · case h_2 depth spacing behind sameDepth =>
      cases sameDepth
      rw [attributes?]
      grind
  · case h_3 depth sameDepth noAttribute =>
      cases sameDepth
      cases read
      rw [attributes?]
      exact noAttribute

theorem attributeContent_succ : Reaches 3 (steps + 1) attributeContent? := by
  have path := reaches.path false
  have whole := reaches.whole
  have lighter := (leaves steps).path false
  refine reaches_succ fun trees value deep read enough => ?_
  simp only [Reaches, LeavesNoMoreOfPath] at *
  rw [attributeContent?] at read ⊢
  grind [Option.bind_eq_some_iff]

theorem whole_succ : Reaches 7 (steps + 1) whole? := by
  have expression := reaches.expression
  refine reaches_succ fun trees value deep read enough => ?_
  simp only [Reaches] at *
  rw [whole?] at read ⊢
  grind

theorem elements_succ : Reaches 7 (steps + 1) elements? := by
  have expression := reaches.expression
  have others := reaches.elements
  have lighter := (leaves steps).expression
  refine reaches_succ fun trees value deep read enough => ?_
  simp only [Reaches, LeavesNoMore] at *
  unfold elements? at read
  split at read
  · cases ‹_ = 0›
  · cases read
    rfl
  · case h_3 depth sameDepth notEmpty =>
      cases sameDepth
      rw [elements?]
      · split at read
        · grind
        · split at read
          · grind
          · grind [Option.map_eq_some_iff]
          · cases read
        · cases read
      · exact notEmpty

theorem expression_succ : Reaches 6 (steps + 1) expression? := by
  have operand := reaches.prefixed
  have climb := reaches.climb
  have lighter := (leaves steps).prefixed
  refine reaches_succ fun trees value deep read enough => ?_
  simp only [Reaches, LeavesNoMore] at *
  rw [expression?] at read ⊢
  grind

theorem prefixed_succ : Reaches 5 (steps + 1) prefixed? := by
  have attributes := reaches.attributes
  have operand := reaches.unary
  have lighter := (leaves steps).attributes
  refine reaches_succ fun trees value deep read enough => ?_
  simp only [Reaches, LeavesNoMore] at *
  rw [prefixed?] at read ⊢
  grind [Option.map_eq_some_iff]

theorem unary_succ : Reaches 4 (steps + 1) unary? := by
  have operand := reaches.prefixed
  have atom := reaches.atom
  have trailing := reaches.trailing
  have lighter := (leaves steps).atom
  refine reaches_succ fun trees value deep read enough => ?_
  simp only [Reaches, LeavesNoMore] at *
  unfold unary? at read
  split at read
  · cases ‹_ = 0›
  · case h_2 depth spacing behind sameDepth =>
      cases sameDepth
      rw [unary?]
      grind [Option.map_eq_some_iff]
  · case h_3 depth spacing behind sameDepth =>
      cases sameDepth
      rw [unary?]
      grind [Option.map_eq_some_iff]
  · case h_4 depth spacing behind sameDepth =>
      cases sameDepth
      rw [unary?]
      grind [Option.map_eq_some_iff]
  · case h_5 depth spacing behind sameDepth =>
      cases sameDepth
      rw [unary?]
      grind [Option.map_eq_some_iff]
  · case h_6 depth sameDepth notMinus notBang notStar notAnd =>
      cases sameDepth
      rw [unary?]
      · grind
      · exact notMinus
      · exact notBang
      · exact notStar
      · exact notAnd

theorem atom_succ : Reaches 3 (steps + 1) atom? := by
  have whole := reaches.whole
  have path := reaches.path false
  have others := reaches.moreSegments false
  have elements := reaches.elements
  have bracketed := reaches.bracketed
  have rangeEnd := reaches.rangeEnd
  refine reaches_succ fun trees value deep read enough => ?_
  simp only [Reaches] at *
  unfold atom? at read
  split at read
  · cases ‹_ = 0›
  · case h_2 depth content behind sameDepth =>
      cases sameDepth
      rw [atom?]
      split at read
      · grind
      · grind
      · cases read
  · cases read
    rfl
  · case h_4 depth word behind sameDepth =>
      cases sameDepth
      rw [atom?]
      grind
  · case h_5 depth content behind sameDepth =>
      cases sameDepth
      rw [atom?]
      grind [Option.map_eq_some_iff]
  · case h_6 depth content behind sameDepth =>
      cases sameDepth
      rw [atom?]
      grind [Option.map_eq_some_iff]
  · cases read
  · case h_8 depth sameDepth notInvisible notLiteral notName notParenthesis notBracket notBrace =>
      cases sameDepth
      rw [atom?]
      · grind [Option.map_eq_some_iff]
      · exact notInvisible
      · exact notLiteral
      · exact notName
      · exact notParenthesis
      · exact notBracket
      · exact notBrace

theorem bracketed_succ : Reaches 7 (steps + 1) bracketed? := by
  have expression := reaches.expression
  have whole := reaches.whole
  have elements := reaches.elements
  have lighter := (leaves steps).expression
  refine reaches_succ fun trees value deep read enough => ?_
  simp only [Reaches, LeavesNoMore] at *
  unfold bracketed? at read
  split at read
  · cases ‹_ = 0›
  · cases read
    rfl
  · case h_3 depth sameDepth notEmpty =>
      cases sameDepth
      rw [bracketed?]
      · split at read
        · grind
        · split at read
          · grind [Option.map_eq_some_iff]
          · split at read
            · grind [Option.bind_eq_some_iff]
            · cases read
        · cases read
      · exact notEmpty

theorem trailing_succ
    (operand : Expression) :
    Reaches 1 (steps + 1) fun steps => trailing? steps operand := by
  have elements := reaches.elements
  have whole := reaches.whole
  have member := reaches.member
  have others := reaches.trailing
  have lighter := (leaves steps).member
  refine reaches_succ fun trees value deep read enough => ?_
  simp only [Reaches, LeavesNoMore] at *
  rw [trailing?] at read ⊢
  split at read
  · grind
  · split at read
    · grind
    · split at read
      · grind
      · split at read
        · grind
        · split at read
          · grind
          · split at read
            · grind
            · grind

theorem member_succ
    (tokens : Trees) :
    Reaches 2 (steps + 1) fun steps => member? steps tokens := by
  have named := reaches.namedMember
  refine reaches_succ fun trees value deep read enough => ?_
  simp only [Reaches] at *
  rw [member?] at read ⊢
  grind

/-- Optional generic arguments are read the same, and leave nothing heavier. -/
theorem optionalGenerics
    {trees tokens rest : Trees}
    (deep : Nat)
    (read : optionalGenerics? steps trees = some (tokens, rest))
    (enough : 16 * weightOfList trees + 1 ≤ deep) :
    optionalGenerics? deep trees = some (tokens, rest) ∧
      weightOfList rest ≤ weightOfList trees := by
  have generics := reaches.generics
  have lighter := (leaves steps).generics
  simp only [Reaches, LeavesNoMore] at generics lighter
  rw [optionalGenerics?] at read ⊢
  grind

theorem namedMember_succ
    (tokens : Trees) :
    Reaches 1 (steps + 1) fun steps => namedMember? steps tokens := by
  have elements := reaches.elements
  refine reaches_succ fun trees value deep read enough => ?_
  simp only [Reaches] at elements
  rw [namedMember?_succ] at read ⊢
  split at read
  · grind
  · split at read
    · grind
    · split at read
      · cases read
      · split at read
        · case h_1 arguments behind found =>
            obtain ⟨again, lessBehind⟩ := reaches.optionalGenerics deep found (by grind)
            rw [again]
            grind [Option.map_eq_some_iff]
        · cases read
  · cases read

theorem rangeEnd_succ
    (marks : List Char) :
    Reaches 7 (steps + 1) fun steps => rangeEnd? steps marks := by
  have operand := reaches.operand
  refine reaches_succ fun trees value deep read enough => ?_
  simp only [Reaches] at *
  rw [rangeEnd?] at read ⊢
  grind [Option.map_eq_some_iff]

theorem operand_succ
    (level : Level) :
    Reaches 6 (steps + 1) fun steps => operand? steps level := by
  have operand := reaches.prefixed
  have tighten := reaches.tighten
  have lighter := (leaves steps).prefixed
  refine reaches_succ fun trees value deep read enough => ?_
  simp only [Reaches, LeavesNoMore] at *
  rw [operand?] at read ⊢
  grind

theorem tighten_succ
    (level : Level)
    (operand : Expression) :
    Reaches 2 (steps + 1) fun steps => tighten? steps level operand := by
  have climb := reaches.climb
  have others := reaches.tighten
  refine reaches_succ fun trees value deep read enough => ?_
  simp only [Reaches] at climb others
  rw [tighten?] at read ⊢
  split at read
  · case isTrue isRange => rw [if_pos isRange, read]
  · case isFalse notRange =>
      rw [if_neg notRange]
      split at read
      · case isTrue binds =>
          rw [if_pos binds]
          split at read
          · case h_1 extended rest climbed =>
              have goesOn : nextLevel trees ≠ .loosest := by
                intro loosest
                simp [loosest, Level.rank] at binds
              have lighter := weight_lt_of_climb?_nextLevel (by simpa using notRange) goesOn climbed
              rw [climb operand _ climbed (by omega)]
              exact others level extended read (by omega)
          · cases read
      · case isFalse stops => rw [if_neg stops, read]

theorem climb_succ
    (left : Expression)
    (level : Level) :
    Reaches 1 (steps + 1) fun steps => climb? steps left level := by
  have type := reaches.type
  have operand := reaches.operand
  have rangeEnd := reaches.rangeEnd
  have others := reaches.climb
  have lighterType := (leaves steps).type
  have lighterOperand := (leaves steps).operand
  have lighterEnd := (leaves steps).rangeEnd
  refine reaches_succ fun trees value deep read enough => ?_
  simp only [Reaches, LeavesNoMore] at *
  rw [climb?] at read ⊢
  split at read
  · grind
  · split at read
    · split at read
      · grind
      · split at read
        · cases read
        · grind
    · split at read
      · split at read
        · grind [Option.bind_eq_some_iff]
        · cases read
      · split at read
        · split at read
          · grind
          · cases read
        · grind

end ReachesAll

/-- No descent needs more than the bound. -/
theorem reachesAll (steps : Nat) : ReachesAll steps := by
  induction steps with
  | zero => constructor <;> intros <;> intro _ _ _ _ <;> contradiction
  | succ steps reaches =>
      exact
        { type := reaches.type_succ
          types := reaches.types_succ
          genericArguments := reaches.genericArguments_succ
          generics := reaches.generics_succ
          segment := reaches.segment_succ
          moreSegments := reaches.moreSegments_succ
          path := reaches.path_succ
          qualifiedPath := reaches.qualifiedPath_succ
          attributes := reaches.attributes_succ
          attributeContent := reaches.attributeContent_succ
          whole := reaches.whole_succ
          elements := reaches.elements_succ
          expression := reaches.expression_succ
          prefixed := reaches.prefixed_succ
          unary := reaches.unary_succ
          atom := reaches.atom_succ
          bracketed := reaches.bracketed_succ
          trailing := reaches.trailing_succ
          member := reaches.member_succ
          namedMember := reaches.namedMember_succ
          rangeEnd := reaches.rangeEnd_succ
          operand := reaches.operand_succ
          tighten := reaches.tighten_succ
          climb := reaches.climb_succ }

/-- Past the bound of a stream, the expression in front is the same at every depth. -/
theorem expression?_of_depthBound_le
    {steps : Nat}
    {trees : Trees}
    (enough : depthBound trees ≤ steps) :
    expression? steps trees = expression? (depthBound trees) trees := by
  have reserve : 16 * weightOfList trees + 6 ≤ depthBound trees := by
    rw [depthBound]
    omega
  exact Option.ext fun value =>
    ⟨fun read => (reachesAll steps).expression read reserve,
      fun read => (reachesAll _).expression read (Nat.le_trans reserve enough)⟩

end CheckedLiterals.Expression
