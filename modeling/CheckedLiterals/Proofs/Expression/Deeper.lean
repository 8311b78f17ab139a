import CheckedLiterals.Proofs.Expression.Lookahead
import CheckedLiterals.Proofs.Expression.Parts

namespace CheckedLiterals.Expression

/-!
# What stands behind an argument

What a reader reads does not depend on what stands behind the end of the argument, nor on
the depth that it may still go to, if that was enough before.  One step is shown here for
types, paths and attributes, from the readers that they call at the lesser depth.  A comma in
the piece itself cannot be mistaken for the one behind the argument: a reader that takes a
comma has found a token in front of it.
-/

open Trees

/-- Whether a reader that may go deeper reads the same in front of the end of an argument. -/
def ReadsAhead
    {Value : Type}
    (reader deeper : Trees → Option (Value × Trees)) :
    Prop :=
  ∀ ⦃trees rest tail : Trees⦄ ⦃value : Value⦄,
    EndsArgument tail →
      reader trees = some (value, rest) →
      deeper (trees ++ tail) = some (value, rest ++ tail)

/-- So for readers of paths, which also tell whether a path is plain. -/
def ReadsPathAhead (reader deeper : Trees → Option (Trees × Bool × Trees)) : Prop :=
  ∀ ⦃trees tokens rest tail : Trees⦄ ⦃isPlain : Bool⦄,
    EndsArgument tail →
      reader trees = some (tokens, isPlain, rest) →
      deeper (trees ++ tail) = some (tokens, isPlain, rest ++ tail)

/-- So for readers of a whole stream, behind which nothing stands. -/
def ReadsWhole
    {Value : Type}
    (reader deeper : Trees → Option Value) :
    Prop :=
  ∀ ⦃trees : Trees⦄ ⦃value : Value⦄, reader trees = some value → deeper trees = some value

theorem ReadsAhead.whole
    {Value : Type}
    {reader deeper : Trees → Option (Value × Trees)}
    (reads : ReadsAhead reader deeper) :
    ReadsWhole reader deeper := by
  intro trees value read
  simpa using reads endsArgument_nil read

theorem ReadsPathAhead.whole
    {reader deeper : Trees → Option (Trees × Bool × Trees)}
    (reads : ReadsPathAhead reader deeper) :
    ReadsWhole reader deeper := by
  intro trees value read
  simpa using reads endsArgument_nil read

/-- What is read the same one step deeper is read the same at every greater depth. -/
theorem ReadsWhole.of_le
    {Value : Type}
    {reader : Nat → Trees → Option Value}
    (deeper : ∀ steps, ReadsWhole (reader steps) (reader (steps + 1)))
    {low high : Nat}
    (le : low ≤ high) :
    ReadsWhole (reader low) (reader high) := by
  induction le with
  | refl => exact fun _ _ read => read
  | step _ reached => exact fun _ _ read => deeper _ (reached read)

theorem leadingColons_append
    {tail : Trees}
    (ends : EndsArgument tail)
    (trees : Trees) :
    leadingColons (trees ++ tail) = ((leadingColons trees).1, (leadingColons trees).2 ++ tail) := by
  rw [leadingColons, leadingColons, afterSymbol?_append ends (by decide)]
  cases afterSymbol? "::".toList trees <;> rfl

/-- The call of a macro that a path names does not reach beyond the argument. -/
theorem afterPath?_append
    {tokens trees rest tail : Trees}
    {isPlain : Bool}
    {expression : Expression}
    (ends : EndsArgument tail)
    (read : afterPath? tokens isPlain trees = some (expression, rest)) :
    afterPath? tokens isPlain (trees ++ tail) = some (expression, rest ++ tail) := by
  rw [afterPath?] at read ⊢
  rw [startsWith_append ends (by decide), startsWith_append ends (by decide)]
  split at read
  · case isTrue isCall =>
      rw [if_pos isCall, afterSymbol?_append ends (by decide)]
      cases behind : afterSymbol? ['!'] trees with
      | none =>
          rw [behind] at read
          cases read
      | some called =>
          rw [behind] at read
          simp only [Option.map_some] at read ⊢
          cases first : exposed called with
          | nil =>
              rw [first] at read
              cases read
          | cons head others =>
              rw [first] at read
              rw [exposed_append_of_ne_nil tail (by simp [first]), first, List.cons_append]
              cases head with
              | group delimiter content =>
                  cases read
                  rfl
              | _ => cases read
  · case isFalse notCalled =>
      cases read
      rw [if_neg notCalled]

/-- Whether the readers of operands, at some depth, need a token to begin with. -/
structure NeedsToken (steps : Nat) : Prop where
  whole : ∀ {trees : Trees}, exposed trees = [] → whole? steps trees = none
  expression : ∀ {trees : Trees}, exposed trees = [] → expression? steps trees = none
  prefixed : ∀ {trees : Trees}, exposed trees = [] → prefixed? steps trees = none
  unary : ∀ {trees : Trees}, exposed trees = [] → unary? steps trees = none
  atom : ∀ {trees : Trees}, exposed trees = [] → atom? steps trees = none

theorem exists_of_exposed_eq_nil
    {trees : Trees}
    (empty : exposed trees = []) :
    trees = [] ∨
      ∃ content rest, trees = .group .invisible content :: rest ∧ exposed content = [] := by
  cases trees with
  | nil => exact .inl rfl
  | cons tree rest =>
      rw [exposed] at empty
      split at empty
      · case h_1 noToken =>
          cases tree with
          | group delimiter content =>
              cases delimiter with
              | invisible =>
                  rw [exposedTree] at noToken
                  exact .inr ⟨content, rest, rfl, noToken⟩
              | _ => cases noToken
          | _ => cases noToken
      · cases empty

/-- Nothing is read where there is no token, but for walls without content. -/
theorem needsToken (steps : Nat) : NeedsToken steps := by
  induction steps with
  | zero => constructor <;> intros <;> rfl
  | succ steps needs =>
      refine ⟨fun empty => ?_, fun empty => ?_, fun {trees} empty => ?_, fun {trees} empty => ?_,
        fun {trees} empty => ?_⟩
      · rw [whole?, needs.expression empty]
      · rw [expression?, needs.prefixed empty]
      · have noAttribute : attributes? steps trees = none ∨
            attributes? steps trees = some ([], trees) := by
          cases steps with
          | zero => exact .inl rfl
          | succ steps =>
              rcases exists_of_exposed_eq_nil empty with rfl | ⟨content, rest, rfl, _⟩
              · exact .inr rfl
              · exact .inr rfl
        rcases noAttribute with none | none
        · rw [prefixed?, none]
        · rw [prefixed?, none]
          simp only [needs.unary empty]
      · have noAtom := needs.atom empty
        rcases exists_of_exposed_eq_nil empty with rfl | ⟨content, rest, rfl, _⟩
        · rw [unary?, noAtom] <;> simp
        · rw [unary?, noAtom] <;> simp
      · rcases exists_of_exposed_eq_nil empty with rfl | ⟨content, rest, rfl, noToken⟩
        · rfl
        · rw [atom?, needs.whole noToken]

theorem exposed_ne_nil_of_operand?
    {steps : Nat}
    {level : Level}
    {trees : Trees}
    {found : Expression × Trees}
    (read : operand? steps level trees = some found) :
    exposed trees ≠ [] := by
  intro empty
  cases steps with
  | zero => cases read
  | succ steps =>
      rw [operand?, (needsToken steps).prefixed empty] at read
      cases read

theorem starts_of_endsRange
    {trees : Trees}
    (halfOpen : endsRange trees = true) :
    trees = [] ∨ exposed trees ≠ [] := by
  refine Decidable.or_iff_not_imp_right.mpr fun empty => ?_
  rw [Decidable.not_not] at empty
  have noSymbol : ∀ symbol : String, symbol.toList ≠ [] → startsWith symbol trees = false := by
    intro symbol notEmpty
    rw [startsWith]
    cases marks : symbol.toList with
    | nil => exact absurd marks notEmpty
    | cons c more => rw [afterSymbol?, empty, Option.isSome_none]
  have noWord : startsWithWord "as" trees = false := by
    rw [startsWithWord, afterWord?, empty, Option.isSome_none]
  simpa [endsRange, noSymbol, noWord] using halfOpen

/-- Whether every reader, at some depth, reads the same one step deeper. -/
structure ReadsDeeper (steps : Nat) : Prop where
  type : ReadsAhead (type? steps) (type? (steps + 1))
  types : ReadsWhole (types? steps) (types? (steps + 1))
  genericArguments : ReadsAhead (genericArguments? steps) (genericArguments? (steps + 1))
  generics : ReadsAhead (generics? steps) (generics? (steps + 1))
  segment : ∀ inType, ReadsPathAhead (segment? steps inType) (segment? (steps + 1) inType)
  moreSegments :
    ∀ inType, ReadsPathAhead (moreSegments? steps inType) (moreSegments? (steps + 1) inType)
  path : ∀ inType, ReadsPathAhead (path? steps inType) (path? (steps + 1) inType)
  qualifiedPath :
    ∀ inType, ReadsPathAhead (qualifiedPath? steps inType) (qualifiedPath? (steps + 1) inType)
  attributes : ReadsAhead (attributes? steps) (attributes? (steps + 1))
  attributeContent : ReadsWhole (attributeContent? steps) (attributeContent? (steps + 1))
  whole : ReadsWhole (whole? steps) (whole? (steps + 1))
  elements : ReadsWhole (elements? steps) (elements? (steps + 1))
  expression : ReadsAhead (expression? steps) (expression? (steps + 1))
  prefixed : ReadsAhead (prefixed? steps) (prefixed? (steps + 1))
  unary : ReadsAhead (unary? steps) (unary? (steps + 1))
  atom : ReadsAhead (atom? steps) (atom? (steps + 1))
  bracketed : ReadsWhole (bracketed? steps) (bracketed? (steps + 1))
  trailing : ∀ operand, ReadsAhead (trailing? steps operand) (trailing? (steps + 1) operand)
  member : ∀ tokens, ReadsAhead (member? steps tokens) (member? (steps + 1) tokens)
  namedMember :
    ∀ tokens, ReadsAhead (namedMember? steps tokens) (namedMember? (steps + 1) tokens)
  rangeEnd : ∀ marks, ReadsAhead (rangeEnd? steps marks) (rangeEnd? (steps + 1) marks)
  operand : ∀ level, ReadsAhead (operand? steps level) (operand? (steps + 1) level)
  tighten :
    ∀ level operand,
      ReadsAhead (tighten? steps level operand) (tighten? (steps + 1) level operand)
  climb : ∀ left level, ReadsAhead (climb? steps left level) (climb? (steps + 1) left level)

namespace ReadsDeeper

variable
  {steps : Nat}
  (reads : ReadsDeeper steps)

include reads

theorem type_succ : ReadsAhead (type? (steps + 1)) (type? (steps + 2)) := by
  intro trees rest tail tokens ends read
  unfold type? at read
  split at read
  · cases ‹_ = 0›
  · case h_2 depth content behind sameDepth =>
      cases sameDepth
      split at read
      · case h_1 found =>
          cases read
          rw [List.cons_append, type?, reads.type.whole found]
      · cases read
  · case h_3 depth content behind sameDepth =>
      cases sameDepth
      obtain ⟨types, found, shape⟩ := Option.map_eq_some_iff.mp read
      cases shape
      rw [List.cons_append, type?, reads.types found]
      rfl
  · case h_4 depth content behind sameDepth =>
      cases sameDepth
      rw [List.cons_append, type?]
      split at read
      · case h_1 found =>
          cases read
          rw [reads.type.whole found]
      · case h_2 element remaining notAll found =>
          rw [reads.type.whole found]
          split at read
          · case h_1 count counted =>
              cases read
              obtain ⟨behind, isMark, isCount⟩ := Option.bind_eq_some_iff.mp counted
              simp only [isMark, Option.bind_some, reads.whole isCount]
          · cases read
      · cases read
  · case h_5 depth word behind sameDepth =>
      cases sameDepth
      rw [List.cons_append, type?]
      split at read
      · case isTrue isHole =>
          cases read
          rw [if_pos isHole]
      · case isFalse isHole =>
          obtain ⟨⟨path, isPlain, remaining⟩, found, shape⟩ := Option.map_eq_some_iff.mp read
          cases shape
          have again := reads.path true ends found
          rw [if_neg isHole, ← List.cons_append, again]
          rfl
  · case h_6 depth sameDepth notInvisible notParenthesis notBracket notName =>
      cases sameDepth
      rw [type?]
      · simp only [afterSymbol?_append ends (by decide : ',' ∉ ['&']),
          afterSymbol?_append ends (by decide : ',' ∉ ['*']),
          afterSymbol?_append ends (by decide : ',' ∉ ['!'])]
        split at read
        · case h_1 behind isReference =>
            simp only [isReference, Option.map_some, afterWord?_append ends]
            split at read
            · case h_1 remaining isMutable =>
                obtain ⟨⟨inner, later⟩, found, shape⟩ := Option.map_eq_some_iff.mp read
                cases shape
                simp only [isMutable, Option.map_some, reads.type ends found]
            · case h_2 notMutable =>
                obtain ⟨⟨inner, later⟩, found, shape⟩ := Option.map_eq_some_iff.mp read
                cases shape
                simp only [notMutable, Option.map_none, Option.map_some, reads.type ends found]
        · case h_2 notReference =>
            simp only [notReference, Option.map_none]
            split at read
            · case h_1 word behind isPointer =>
                simp only [isPointer, Option.map_some, List.cons_append]
                split at read
                · case isTrue qualified =>
                    obtain ⟨⟨inner, later⟩, found, shape⟩ := Option.map_eq_some_iff.mp read
                    cases shape
                    simp only [qualified, ↓reduceIte, reads.type ends found, Option.map_some]
                · cases read
            · cases read
            · case h_3 notPointer =>
                simp only [notPointer, Option.map_none]
                split at read
                · case h_1 behind isNever =>
                    cases read
                    simp only [isNever, Option.map_some]
                · case h_2 notNever =>
                    obtain ⟨⟨path, isPlain, later⟩, found, shape⟩ :=
                      Option.map_eq_some_iff.mp read
                    cases shape
                    simp only [notNever, Option.map_none, reads.path true ends found,
                      Option.map_some]
      · exact fun content => ends.append_ne (by simp) (notInvisible content)
      · exact fun content => ends.append_ne (by simp) (notParenthesis content)
      · exact fun content => ends.append_ne (by simp) (notBracket content)
      · exact fun word => ends.append_ne (by simp) (notName word)

theorem types_succ : ReadsWhole (types? (steps + 1)) (types? (steps + 2)) := by
  intro trees tokens read
  unfold types? at read
  split at read
  · cases ‹_ = 0›
  · cases read
    rfl
  · case h_3 depth sameDepth notEmpty =>
      cases sameDepth
      rw [types?]
      · split at read
        · case h_1 found =>
            cases read
            rw [reads.type.whole found]
        · case h_2 first remaining notAll found =>
            rw [reads.type.whole found]
            split at read
            · case h_1 behind isComma =>
                obtain ⟨more, moreRead, shape⟩ := Option.map_eq_some_iff.mp read
                cases shape
                simp only [isComma, reads.types moreRead, Option.map_some]
            · cases read
        · cases read
      · exact notEmpty

theorem genericArgument_succ :
    ReadsAhead (genericArgument? steps) (genericArgument? (steps + 1)) := by
  intro trees rest tail tokens ends read
  rw [genericArgument?] at read ⊢
  cases first : exposed trees with
  | nil =>
      rw [first] at read
      rw [exposed_append_of_eq_nil tail first, ends.exposed]
      rcases ends with rfl | ⟨spacing, behind, rfl⟩
      · exact reads.type endsArgument_nil read
      · exact reads.type (endsArgument_comma spacing behind) read
  | cons head others =>
      rw [first] at read
      rw [exposed_append_of_ne_nil tail (by simp [first]), first, List.cons_append]
      cases head with
      | literal written =>
          cases read
          rfl
      | _ => exact reads.type ends read

theorem genericArguments_succ :
    ReadsAhead (genericArguments? (steps + 1)) (genericArguments? (steps + 2)) := by
  intro trees rest tail tokens ends read
  have closing : ∀ trees, startsWith ">" (trees ++ tail) = startsWith ">" trees :=
    startsWith_append ends (by decide)
  rw [genericArguments?_succ] at read ⊢
  rw [closing]
  split at read
  · case isTrue closes =>
      cases read
      rw [if_pos closes]
  · case isFalse opens =>
      rw [if_neg opens]
      split at read
      · case h_1 argument behind found =>
          simp only [reads.genericArgument_succ ends found, closing]
          split at read
          · case isTrue closes =>
              cases read
              rw [if_pos closes]
          · case isFalse goesOn =>
              rw [if_neg goesOn]
              split at read
              · case h_1 remaining isComma =>
                  obtain ⟨⟨more, later⟩, moreRead, shape⟩ := Option.map_eq_some_iff.mp read
                  cases shape
                  rw [afterSymbol?_comma_append tail (exposed_ne_nil_of_afterSymbol? isComma),
                    isComma]
                  simp only [Option.map_some, reads.genericArguments ends moreRead]
              · cases read
      · cases read

theorem generics_succ : ReadsAhead (generics? (steps + 1)) (generics? (steps + 2)) := by
  intro trees rest tail tokens ends read
  rw [generics?_succ] at read ⊢
  rw [leadingColons_append ends]
  split at read
  · case h_1 arguments behind found =>
      obtain ⟨inner, isOpening, argumentsRead⟩ := Option.bind_eq_some_iff.mp found
      obtain ⟨remaining, isClosing, shape⟩ := Option.map_eq_some_iff.mp read
      cases shape
      rw [afterSymbol?_append ends (by decide), isOpening, Option.map_some, Option.bind_some,
        reads.genericArguments ends argumentsRead]
      simp only [afterSymbol?_append ends (by decide : ',' ∉ ['>']), isClosing, Option.map_some]
  · cases read

theorem segment_succ
    (inType : Bool) :
    ReadsPathAhead (segment? (steps + 1) inType) (segment? (steps + 2) inType) := by
  intro trees tokens rest tail isPlain ends read
  rw [segment?] at read ⊢
  cases first : exposed trees with
  | nil =>
      rw [first] at read
      cases read
  | cons head others =>
      rw [first] at read
      rw [exposed_append_of_ne_nil tail (by simp [first]), first, List.cons_append]
      cases head with
      | name word =>
          have behindColons : (afterSymbol? "::".toList (others ++ tail)).any (startsWith "<") =
              (afterSymbol? "::".toList others).any (startsWith "<") := by
            rw [afterSymbol?_append ends (by decide)]
            cases afterSymbol? "::".toList others with
            | none => rfl
            | some behind => exact startsWith_append ends (by decide) behind
          simp only [behindColons, startsWith_append ends (by decide : ',' ∉ "<".toList),
            startsWith_append ends (by decide : ',' ∉ "<=".toList)]
          simp only at read
          split at read
          · case isTrue isKeyword =>
              cases read
              rw [if_pos isKeyword]
          · case isFalse noKeyword =>
              rw [if_neg noKeyword]
              split at read
              · cases read
              · case isFalse isWord =>
                  rw [if_neg isWord]
                  split at read
                  · case isTrue opens =>
                      obtain ⟨⟨arguments, remaining⟩, found, shape⟩ :=
                        Option.map_eq_some_iff.mp read
                      cases shape
                      rw [if_pos opens, reads.generics ends found]
                      rfl
                  · case isFalse isAlone =>
                      cases read
                      rw [if_neg isAlone]
      | _ => cases read

theorem moreSegments_succ
    (inType : Bool) :
    ReadsPathAhead (moreSegments? (steps + 1) inType) (moreSegments? (steps + 2) inType) := by
  intro trees tokens rest tail isPlain ends read
  rw [moreSegments?] at read ⊢
  rw [afterSymbol?_append ends (by decide)]
  split at read
  · case h_1 behind isColons =>
      simp only [isColons, Option.map_some, enclosed?_append ends, Option.isSome_map]
      split at read
      · case isTrue isGroup =>
          cases read
          rw [if_pos isGroup]
      · case isFalse noGroup =>
          rw [if_neg noGroup]
          split at read
          · case h_1 segment segmentPlain remaining found =>
              obtain ⟨⟨more, arePlain, later⟩, moreRead, shape⟩ := Option.map_eq_some_iff.mp read
              cases shape
              simp only [reads.segment inType ends found, reads.moreSegments inType ends moreRead,
                Option.map_some]
          · cases read
  · case h_2 noColons =>
      cases read
      simp only [noColons, Option.map_none]

theorem path_succ
    (inType : Bool) :
    ReadsPathAhead (path? (steps + 1) inType) (path? (steps + 2) inType) := by
  intro trees tokens rest tail isPlain ends read
  rw [path?_succ] at read ⊢
  rw [afterSymbol?_append ends (by decide), leadingColons_append ends]
  split at read
  · case h_1 behind isOpening =>
      simp only [isOpening, Option.map_some]
      exact reads.qualifiedPath inType ends read
  · case h_2 noOpening =>
      simp only [noOpening, Option.map_none]
      split at read
      · case h_1 segment segmentPlain remaining found =>
          obtain ⟨⟨more, arePlain, later⟩, moreRead, shape⟩ := Option.map_eq_some_iff.mp read
          cases shape
          simp only [reads.segment inType ends found, reads.moreSegments inType ends moreRead,
            Option.map_some]
      · cases read

theorem conversion_succ : ReadsAhead (conversion? steps) (conversion? (steps + 1)) := by
  intro trees rest tail tokens ends read
  rw [conversion?] at read ⊢
  rw [afterWord?_append ends]
  split at read
  · case h_1 behind isConverted =>
      obtain ⟨⟨path, isPlain, remaining⟩, found, shape⟩ := Option.map_eq_some_iff.mp read
      cases shape
      simp only [isConverted, Option.map_some, reads.path true ends found]
  · case h_2 notConverted =>
      cases read
      simp only [notConverted, Option.map_none]

theorem qualifiedPath_succ
    (inType : Bool) :
    ReadsPathAhead (qualifiedPath? (steps + 1) inType) (qualifiedPath? (steps + 2) inType) := by
  intro trees tokens rest tail isPlain ends read
  rw [qualifiedPath?_succ] at read ⊢
  split at read
  · case h_1 qualifying behind found =>
      rw [reads.type ends found]
      split at read
      · case h_1 converted remaining conversion =>
          simp only [reads.conversion_succ ends conversion]
          split at read
          · case h_1 more arePlain later segments =>
              obtain ⟨inner, isClosing, segmentsRead⟩ := Option.bind_eq_some_iff.mp segments
              rw [afterSymbol?_append ends (by decide), isClosing, Option.map_some,
                Option.bind_some, reads.moreSegments inType ends segmentsRead]
              split at read
              · cases read
              · case isFalse notEmpty =>
                  cases read
                  simp only [notEmpty, Bool.false_eq_true, ↓reduceIte]
          · cases read
      · cases read
  · cases read

theorem attributes_succ : ReadsAhead (attributes? (steps + 1)) (attributes? (steps + 2)) := by
  intro trees rest tail tokens ends read
  unfold attributes? at read
  split at read
  · cases ‹_ = 0›
  · case h_2 depth spacing behind sameDepth =>
      cases sameDepth
      rw [List.cons_append, attributes?, enclosed?_append ends]
      split at read
      · case h_1 content remaining isGroup =>
          simp only [isGroup, Option.map_some]
          split at read
          · case h_1 contentTokens more later contentRead moreRead =>
              cases read
              simp only [reads.attributeContent contentRead, reads.attributes ends moreRead]
          · cases read
      · cases read
  · case h_3 depth sameDepth noAttribute =>
      cases sameDepth
      cases read
      rw [attributes?]
      exact fun spacing => ends.append_ne (by simp) (noAttribute spacing)

theorem attributeContent_succ :
    ReadsWhole (attributeContent? (steps + 1)) (attributeContent? (steps + 2)) := by
  intro trees tokens read
  rw [attributeContent?] at read ⊢
  split at read
  · case h_1 path found =>
      cases read
      rw [(reads.path false).whole found]
  · case h_2 path delimiter content found =>
      cases read
      rw [(reads.path false).whole found]
  · case h_3 path rest notAll notGroup found =>
      rw [(reads.path false).whole found]
      split at read
      · case h_1 value isValue =>
          cases read
          obtain ⟨behind, isMark, valueRead⟩ := Option.bind_eq_some_iff.mp isValue
          simp only [isMark, Option.bind_some, reads.whole valueRead]
      · cases read
  · cases read

end ReadsDeeper

end CheckedLiterals.Expression
