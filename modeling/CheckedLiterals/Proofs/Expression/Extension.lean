import CheckedLiterals.Proofs.Expression.Deeper

namespace CheckedLiterals.Expression

/-!
# Reading on in front of a comma

The step from one depth to the next for operands and operators, and with it, by induction on
the depth, every reader: what is read to its end is read just so in a longer stream if a comma
follows, and at every greater depth.
-/

open Trees

namespace ReadsDeeper

variable
  {steps : Nat}
  (reads : ReadsDeeper steps)

include reads

theorem whole_succ : ReadsWhole (whole? (steps + 1)) (whole? (steps + 2)) := by
  intro trees expression read
  rw [whole?] at read ⊢
  split at read
  · case h_1 found =>
      cases read
      rw [reads.expression.whole found]
  · cases read

theorem elements_succ : ReadsWhole (elements? (steps + 1)) (elements? (steps + 2)) := by
  intro trees elements read
  unfold elements? at read
  split at read
  · cases ‹_ = 0›
  · cases read
    rfl
  · case h_3 depth sameDepth notEmpty =>
      cases sameDepth
      rw [elements?]
      · split at read
        · case h_1 found =>
            cases read
            rw [reads.expression.whole found]
        · case h_2 first remaining notAll found =>
            rw [reads.expression.whole found]
            split at read
            · case h_1 isComma =>
                cases read
                simp only [isComma]
            · case h_2 behind notLast isComma =>
                obtain ⟨more, moreRead, shape⟩ := Option.map_eq_some_iff.mp read
                cases shape
                simp only [isComma, reads.elements moreRead, Option.map_some]
            · cases read
        · cases read
      · exact notEmpty

theorem expression_succ : ReadsAhead (expression? (steps + 1)) (expression? (steps + 2)) := by
  intro trees rest tail expression ends read
  rw [expression?] at read ⊢
  split at read
  · case h_1 operand behind found =>
      rw [reads.prefixed ends found]
      exact reads.climb operand .loosest ends read
  · cases read

theorem prefixed_succ : ReadsAhead (prefixed? (steps + 1)) (prefixed? (steps + 2)) := by
  intro trees rest tail expression ends read
  rw [prefixed?] at read ⊢
  split at read
  · case h_1 attributes behind attributed =>
      rw [reads.attributes ends attributed]
      split at read
      · case h_1 inner remaining found =>
          obtain ⟨whole, withAttributes, shape⟩ := Option.map_eq_some_iff.mp read
          cases shape
          simp only [reads.unary ends found, withAttributes, Option.map_some]
      · cases read
  · cases read

theorem unary_succ : ReadsAhead (unary? (steps + 1)) (unary? (steps + 2)) := by
  intro trees rest tail expression ends read
  unfold unary? at read
  split at read
  · cases ‹_ = 0›
  · case h_2 depth spacing behind sameDepth =>
      cases sameDepth
      obtain ⟨⟨operand, remaining⟩, found, shape⟩ := Option.map_eq_some_iff.mp read
      cases shape
      rw [List.cons_append, unary?, reads.prefixed ends found]
      rfl
  · case h_3 depth spacing behind sameDepth =>
      cases sameDepth
      obtain ⟨⟨operand, remaining⟩, found, shape⟩ := Option.map_eq_some_iff.mp read
      cases shape
      rw [List.cons_append, unary?, reads.prefixed ends found]
      rfl
  · case h_4 depth spacing behind sameDepth =>
      cases sameDepth
      obtain ⟨⟨operand, remaining⟩, found, shape⟩ := Option.map_eq_some_iff.mp read
      cases shape
      rw [List.cons_append, unary?, reads.prefixed ends found]
      rfl
  · case h_5 depth spacing behind sameDepth =>
      cases sameDepth
      rw [List.cons_append, unary?, afterWord?_append ends]
      split at read
      · case h_1 remaining isMutable =>
          obtain ⟨⟨operand, later⟩, found, shape⟩ := Option.map_eq_some_iff.mp read
          cases shape
          simp only [isMutable, Option.map_some, reads.prefixed ends found]
      · case h_2 notMutable =>
          obtain ⟨⟨operand, later⟩, found, shape⟩ := Option.map_eq_some_iff.mp read
          cases shape
          simp only [notMutable, Option.map_none, Option.map_some, reads.prefixed ends found]
  · case h_6 depth sameDepth noMinus noNot noStar noReference =>
      cases sameDepth
      rw [unary?]
      · split at read
        · case h_1 operand behind found =>
            rw [reads.atom ends found]
            exact reads.trailing operand ends read
        · cases read
      · exact fun spacing => ends.append_ne (by simp) (noMinus spacing)
      · exact fun spacing => ends.append_ne (by simp) (noNot spacing)
      · exact fun spacing => ends.append_ne (by simp) (noStar spacing)
      · exact fun spacing => ends.append_ne (by simp) (noReference spacing)

theorem atom_succ : ReadsAhead (atom? (steps + 1)) (atom? (steps + 2)) := by
  intro trees rest tail expression ends read
  unfold atom? at read
  split at read
  · cases ‹_ = 0›
  · case h_2 depth content behind sameDepth =>
      cases sameDepth
      rw [List.cons_append, atom?]
      split at read
      · case h_1 tokens found =>
          rw [reads.whole found]
          split at read
          · case h_1 more isPlain remaining segments =>
              simp only [reads.moreSegments false ends segments]
              split at read
              · case h_1 path later isPath =>
                  rw [afterPath?_append ends isPath]
                  split at read
                  · case isTrue noMore =>
                      cases read
                      simp only [noMore, ↓reduceIte]
                  · case isFalse isLonger =>
                      cases read
                      simp only [isLonger, Bool.false_eq_true, ↓reduceIte]
              · case h_2 notPath =>
                  rw [afterPath?_append ends read]
                  split
                  · case h_1 path later same =>
                      cases same
                      exact (notPath _ _ read).elim
                  · rfl
          · cases read
      · case h_2 inner notPath found =>
          cases read
          simp only [reads.whole found]
      · cases read
  · cases read
    rw [List.cons_append, atom?]
  · case h_4 depth word behind sameDepth =>
      cases sameDepth
      rw [List.cons_append, atom?]
      split at read
      · case isTrue isAlone =>
          cases read
          rw [if_pos isAlone]
      · case isFalse notAlone =>
          rw [if_neg notAlone]
          split at read
          · case isTrue isWord =>
              rw [if_pos isWord]
              split at read
              · case h_1 tokens isPlain remaining found =>
                  have again := reads.path false ends found
                  rw [List.cons_append] at again
                  rw [again]
                  exact afterPath?_append ends read
              · cases read
          · cases read
  · case h_5 depth content behind sameDepth =>
      cases sameDepth
      obtain ⟨⟨elements, trailing⟩, found, shape⟩ := Option.map_eq_some_iff.mp read
      cases shape
      rw [List.cons_append, atom?, reads.elements found]
      rfl
  · case h_6 depth content behind sameDepth =>
      cases sameDepth
      obtain ⟨tokens, found, shape⟩ := Option.map_eq_some_iff.mp read
      cases shape
      rw [List.cons_append, atom?, reads.bracketed found]
      rfl
  · cases read
  · case h_8 depth sameDepth notInvisible notLiteral notName notParenthesis notBracket notBrace =>
      cases sameDepth
      rw [atom?]
      · rw [rangeMarks?_append ends]
        split at read
        · case h_1 marks behind isRange =>
            obtain ⟨⟨tokens, remaining⟩, found, shape⟩ := Option.map_eq_some_iff.mp read
            cases shape
            simp only [isRange, Option.map_some, reads.rangeEnd marks ends found]
        · case h_2 noRange =>
            simp only [noRange, Option.map_none,
              startsWith_append ends (by decide : ',' ∉ "::".toList),
              startsWith_append ends (by decide : ',' ∉ "<".toList)]
            split at read
            · case isTrue begins =>
                rw [if_pos begins]
                split at read
                · case h_1 tokens isPlain remaining found =>
                    simp only [reads.path false ends found]
                    exact afterPath?_append ends read
                · cases read
            · cases read
      · exact fun content => ends.append_ne (by simp) (notInvisible content)
      · exact fun written => ends.append_ne (by simp) (notLiteral written)
      · exact fun word => ends.append_ne (by simp) (notName word)
      · exact fun content => ends.append_ne (by simp) (notParenthesis content)
      · exact fun content => ends.append_ne (by simp) (notBracket content)
      · exact fun content => ends.append_ne (by simp) (notBrace content)

theorem bracketed_succ : ReadsWhole (bracketed? (steps + 1)) (bracketed? (steps + 2)) := by
  intro trees tokens read
  unfold bracketed? at read
  split at read
  · cases ‹_ = 0›
  · cases read
    rfl
  · case h_3 depth sameDepth notEmpty =>
      cases sameDepth
      rw [bracketed?]
      · split at read
        · case h_1 found =>
            cases read
            rw [reads.expression.whole found]
        · case h_2 first remaining notAll found =>
            rw [reads.expression.whole found]
            split at read
            · case h_1 behind isSemicolon =>
                obtain ⟨count, counted, shape⟩ := Option.map_eq_some_iff.mp read
                cases shape
                simp only [isSemicolon, reads.whole counted, Option.map_some]
            · case h_2 noSemicolon =>
                simp only [noSemicolon]
                split at read
                · case h_1 elements trailing isList =>
                    cases read
                    obtain ⟨behind, isComma, elementsRead⟩ := Option.bind_eq_some_iff.mp isList
                    rw [isComma, Option.bind_some, reads.elements elementsRead]
                · cases read
        · cases read
      · exact notEmpty

theorem trailing_succ
    (operand : Expression) :
    ReadsAhead (trailing? (steps + 1) operand) (trailing? (steps + 2) operand) := by
  intro trees rest tail expression ends read
  rw [trailing?] at read ⊢
  rw [enclosed?_append ends, enclosed?_append ends,
    afterSymbol?_append ends (by decide : ',' ∉ ['?']),
    startsWith_append ends (by decide), afterSymbol?_append ends (by decide : ',' ∉ ['.'])]
  split at read
  · case h_1 content behind isCall =>
      simp only [isCall, Option.map_some]
      split at read
      · case h_1 elements trailing found =>
          rw [reads.elements found]
          exact reads.trailing _ ends read
      · cases read
  · case h_2 noCall =>
      simp only [noCall, Option.map_none]
      split at read
      · case h_1 content behind isIndexed =>
          simp only [isIndexed, Option.map_some]
          split at read
          · case h_1 index found =>
              rw [reads.whole found]
              exact reads.trailing _ ends read
          · cases read
      · case h_2 notIndexed =>
          simp only [notIndexed, Option.map_none]
          split at read
          · case isTrue isRange =>
              cases read
              rw [if_pos isRange]
          · case isFalse noRange =>
              rw [if_neg noRange]
              split at read
              · case h_1 behind isTried =>
                  simp only [isTried, Option.map_some]
                  exact reads.trailing _ ends read
              · case h_2 notTried =>
                  simp only [notTried, Option.map_none]
                  split at read
                  · case isTrue goesOn =>
                      cases read
                      rw [if_pos goesOn]
                  · case isFalse notRange =>
                      rw [if_neg notRange]
                      split at read
                      · case h_1 behind isMember =>
                          simp only [isMember, Option.map_some]
                          split at read
                          · case h_1 tokens remaining found =>
                              simp only [reads.member _ ends found]
                              exact reads.trailing _ ends read
                          · cases read
                      · case h_2 noMember =>
                          cases read
                          simp only [noMember, Option.map_none]

theorem member_succ
    (tokens : Trees) :
    ReadsAhead (member? (steps + 1) tokens) (member? (steps + 2) tokens) := by
  intro trees rest tail more ends read
  rw [member?] at read ⊢
  cases first : exposed trees with
  | nil =>
      rw [first] at read
      rw [exposed_append_of_eq_nil tail first, ends.exposed]
      rcases ends with rfl | ⟨spacing, behind, rfl⟩
      · exact reads.namedMember tokens endsArgument_nil read
      · exact reads.namedMember tokens (endsArgument_comma spacing behind) read
  | cons head others =>
      rw [first] at read
      rw [exposed_append_of_ne_nil tail (by simp [first]), first, List.cons_append]
      cases head with
      | literal written =>
          simp only at read ⊢
          split at read
          · case h_1 isFloat =>
              split at read
              · case h_1 indices split =>
                  split at read
                  · case isTrue pointed =>
                      rw [if_pos pointed]
                      exact reads.namedMember _ ends read
                  · case isFalse notPointed =>
                      cases read
                      rw [if_neg notPointed]
              · cases read
          · case h_2 notFloat =>
              exact reads.namedMember tokens ends read
      | _ => exact reads.namedMember tokens ends read

theorem optionalGenerics_succ :
    ReadsAhead (optionalGenerics? steps) (optionalGenerics? (steps + 1)) := by
  intro trees rest tail tokens ends read
  rw [optionalGenerics?] at read ⊢
  rw [startsWith_append ends (by decide)]
  split at read
  · case isTrue opens =>
      rw [if_pos opens]
      exact reads.generics ends read
  · case isFalse noGenerics =>
      cases read
      rw [if_neg noGenerics]

theorem namedMember_succ
    (tokens : Trees) :
    ReadsAhead (namedMember? (steps + 1) tokens) (namedMember? (steps + 2) tokens) := by
  intro trees rest tail more ends read
  rw [namedMember?_succ] at read ⊢
  cases first : exposed trees with
  | nil =>
      rw [first] at read
      cases read
  | cons head others =>
      rw [first] at read
      rw [exposed_append_of_ne_nil tail (by simp [first]), first, List.cons_append]
      cases head with
      | literal written =>
          simp only at read ⊢
          split at read
          · case isTrue isInteger =>
              obtain ⟨index, found, shape⟩ := Option.map_eq_some_iff.mp read
              cases shape
              simp only [isInteger, ↓reduceIte, found, Option.map_some]
          · cases read
      | name word =>
          simp only at read ⊢
          split at read
          · case isTrue awaits =>
              cases read
              rw [if_pos awaits]
          · case isFalse notAwaits =>
              rw [if_neg notAwaits]
              split at read
              · cases read
              · case isFalse isWord =>
                  rw [if_neg isWord]
                  split at read
                  · case h_1 arguments remaining found =>
                      simp only [reads.optionalGenerics_succ ends found, enclosed?_append ends]
                      split at read
                      · case h_1 content behind isCall =>
                          obtain ⟨⟨elements, trailing⟩, elementsRead, shape⟩ :=
                            Option.map_eq_some_iff.mp read
                          cases shape
                          simp only [isCall, Option.map_some, reads.elements elementsRead]
                      · case h_2 noCall =>
                          split at read
                          · case isTrue noArguments =>
                              cases read
                              simp only [noCall, Option.map_none, noArguments, ↓reduceIte]
                          · cases read
                  · cases read
      | _ => cases read

theorem rangeEnd_succ
    (marks : List Char) :
    ReadsAhead (rangeEnd? (steps + 1) marks) (rangeEnd? (steps + 2) marks) := by
  intro trees rest tail tokens ends read
  rw [rangeEnd?] at read ⊢
  split at read
  · case isTrue halfOpen =>
      cases read
      rw [Bool.and_eq_true] at halfOpen
      rw [endsRange_append ends (starts_of_endsRange halfOpen.2),
        if_pos (Bool.and_eq_true _ _ ▸ halfOpen)]
  · case isFalse closed =>
      obtain ⟨⟨expression, remaining⟩, found, shape⟩ := Option.map_eq_some_iff.mp read
      cases shape
      rw [endsRange_append ends (.inr (exposed_ne_nil_of_operand? found)), if_neg closed,
        reads.operand .range ends found]
      rfl

theorem operand_succ
    (level : Level) :
    ReadsAhead (operand? (steps + 1) level) (operand? (steps + 2) level) := by
  intro trees rest tail expression ends read
  rw [operand?] at read ⊢
  split at read
  · case h_1 operand behind found =>
      rw [reads.prefixed ends found]
      exact reads.tighten level operand ends read
  · cases read

theorem tighten_succ
    (level : Level)
    (operand : Expression) :
    ReadsAhead (tighten? (steps + 1) level operand) (tighten? (steps + 2) level operand) := by
  intro trees rest tail expression ends read
  rw [tighten?] at read ⊢
  rw [nextLevel_append ends]
  split at read
  · case isTrue isRange =>
      cases read
      rw [if_pos isRange]
  · case isFalse noRange =>
      rw [if_neg noRange]
      split at read
      · case isTrue binds =>
          rw [if_pos binds]
          split at read
          · case h_1 extended behind found =>
              simp only [reads.climb _ _ ends found]
              exact reads.tighten level extended ends read
          · cases read
      · case isFalse ends =>
          cases read
          rw [if_neg ends]

theorem climb_succ
    (left : Expression)
    (level : Level) :
    ReadsAhead (climb? (steps + 1) left level) (climb? (steps + 2) left level) := by
  intro trees rest tail expression ends read
  rw [climb?] at read ⊢
  rw [operator?_append ends, startsAssignment_append ends,
    afterSymbol?_append ends (by decide : ',' ∉ ['=']), startsWith_append ends (by decide),
    rangeMarks?_append ends, afterWord?_append ends]
  split at read
  · case isTrue isRange =>
      cases read
      rw [if_pos isRange]
  · case isFalse noRange =>
      rw [if_neg noRange]
      split at read
      · case h_1 operator behind isOperator =>
          simp only [isOperator, Option.map_some]
          split at read
          · case isTrue binds =>
              cases read
              rw [if_pos binds]
          · case isFalse goesOn =>
              rw [if_neg goesOn]
              split at read
              · cases read
              · case isFalse notChained =>
                  rw [if_neg notChained]
                  split at read
                  · case h_1 right remaining found =>
                      simp only [reads.operand _ ends found]
                      exact reads.climb _ _ ends read
                  · cases read
      · case h_2 noOperator =>
          simp only [noOperator, Option.map_none]
          split at read
          · case isTrue assigns =>
              rw [if_pos assigns]
              split at read
              · case h_1 right remaining assigned =>
                  obtain ⟨behind, isMark, found⟩ := Option.bind_eq_some_iff.mp assigned
                  rw [isMark, Option.map_some, Option.bind_some, reads.operand _ ends found]
                  exact reads.climb _ _ ends read
              · cases read
          · case isFalse notAssigned =>
              rw [if_neg notAssigned]
              split at read
              · case isTrue ranges =>
                  rw [if_pos ranges]
                  split at read
                  · case h_1 marks behind isRange =>
                      simp only [isRange, Option.map_some]
                      split at read
                      · case h_1 tokens remaining found =>
                          simp only [reads.rangeEnd marks ends found]
                          exact reads.climb _ _ ends read
                      · cases read
                  · cases read
              · case isFalse notRange =>
                  rw [if_neg notRange]
                  split at read
                  · case h_1 behind isCast =>
                      simp only [isCast, Option.map_some]
                      split at read
                      · case h_1 tokens remaining found =>
                          simp only [reads.type ends found]
                          exact reads.climb _ _ ends read
                      · cases read
                  · case h_2 notCast =>
                      cases read
                      simp only [notCast, Option.map_none]

end ReadsDeeper

/-- Every reader reads the same one step deeper, in front of the end of an argument as well. -/
theorem readsDeeper (steps : Nat) : ReadsDeeper steps := by
  induction steps with
  | zero => constructor <;> intros <;> intro _ _ <;> intros <;> contradiction
  | succ steps reads =>
      exact
        { type := reads.type_succ
          types := reads.types_succ
          genericArguments := reads.genericArguments_succ
          generics := reads.generics_succ
          segment := reads.segment_succ
          moreSegments := reads.moreSegments_succ
          path := reads.path_succ
          qualifiedPath := reads.qualifiedPath_succ
          attributes := reads.attributes_succ
          attributeContent := reads.attributeContent_succ
          whole := reads.whole_succ
          elements := reads.elements_succ
          expression := reads.expression_succ
          prefixed := reads.prefixed_succ
          unary := reads.unary_succ
          atom := reads.atom_succ
          bracketed := reads.bracketed_succ
          trailing := reads.trailing_succ
          member := reads.member_succ
          namedMember := reads.namedMember_succ
          rangeEnd := reads.rangeEnd_succ
          operand := reads.operand_succ
          tighten := reads.tighten_succ
          climb := reads.climb_succ }

end CheckedLiterals.Expression
