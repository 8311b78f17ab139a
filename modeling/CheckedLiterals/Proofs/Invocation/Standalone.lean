import CheckedLiterals.Proofs.Expression.Depth
import CheckedLiterals.Proofs.Expression.Extension
import CheckedLiterals.Proofs.Invocation.Laws
import CheckedLiterals.Proofs.Invocation.Outcome
import CheckedLiterals.Proofs.Token.Alone

namespace CheckedLiterals

/-!
# The front end that stands by itself

The front end that invocations are tried with keeps every rule that front ends are known by: it
cuts calls at sight and literals by their spelling, writes tokens in order, and reads an argument
up to its comma.  The depths that its readers are given never run out.
-/

open Text (isIdentifierStart isIdentifierContinue)
open TokenTree (pieces piecesOfList textOfList weightOfList weightOfList_append)

namespace Token

theorem ascii_of_isAlpha
    {c : Char}
    (letter : c.isAlpha = true) :
    c.toNat < 0x80 := by
  rcases Text.isAlpha_iff.mp letter with ⟨_, last⟩ | ⟨_, last⟩
  · exact Nat.lt_of_le_of_lt last (by decide)
  · exact Nat.lt_of_le_of_lt last (by decide)

/-- Letters and underscores begin identifiers. -/
theorem isIdentifierStart_of_isPlain
    {c : Char}
    (plain : (c.isAlpha || c == '_') = true) :
    isIdentifierStart c = true := by
  have ascii : c.toNat < 0x80 := by
    rcases Bool.or_eq_true_iff.mp plain with letter | underscore
    · exact ascii_of_isAlpha letter
    · rw [beq_iff_eq.mp underscore]
      decide
  rw [isIdentifierStart, if_pos ascii, plain]

theorem IsPlainWord.isWord
    {word : List Char}
    (plain : IsPlainWord word) :
    IsWord word := by
  obtain ⟨isThere, allPlain⟩ := plain
  have inside := List.all_eq_true.mp allPlain
  cases word with
  | nil => exact absurd rfl isThere
  | cons c rest =>
      rw [IsWord, afterIdentifier?, if_pos (isIdentifierStart_of_isPlain (inside c (by simp))),
        Option.some.injEq, List.dropWhile_eq_nil_iff]
      intro d member
      exact isIdentifierContinue_of_isIdentifierStart
        (isIdentifierStart_of_isPlain (inside d (List.mem_cons_of_mem c member)))

theorem EndsPlainWord.endsName
    {text : List Char}
    (ends : EndsPlainWord text) :
    EndsName text := by
  have stops :
      ('(' :: callMarks).all (fun c => !isIdentifierContinue c && c ∉ quoteMarks) = true := by
    decide +kernel
  obtain ⟨c, first, isMark⟩ := ends
  cases text with
  | nil => cases first
  | cons d rest =>
      cases first
      exact endsName_cons rest (by simpa using List.all_eq_true.mp stops c isMark)

/-- A mark of a call is cut off alone; whether it is joint depends on what is behind it. -/
theorem step?_callMark
    {symbol : Char}
    (isMark : symbol ∈ callMarks)
    (text : List Char) :
    step? symbol text =
      some ([.tree (.mark symbol (if startsMark text then .joint else .alone))], text) := by
  simp only [callMarks, List.mem_cons, List.not_mem_nil, or_false] at isMark
  rcases isMark with rfl | rfl | rfl | rfl | rfl | rfl | rfl | rfl <;> rfl

theorem StartsCallMark.startsMark
    {text : List Char}
    (starts : StartsCallMark text) :
    startsMark text = true := by
  obtain ⟨c, first, isMark⟩ := starts
  cases text with
  | nil => cases first
  | cons d rest =>
      cases first
      simp only [callMarks, List.mem_cons, List.not_mem_nil, or_false] at isMark
      rcases isMark with rfl | rfl | rfl | rfl | rfl | rfl | rfl | rfl <;> rfl

theorem StartsApart.startsMark
    {text : List Char}
    (starts : StartsApart text) :
    startsMark text = false := by
  obtain ⟨c, first, apart⟩ := starts
  cases text with
  | nil => cases first
  | cons d rest =>
      cases first
      simp only [Bool.or_eq_true, beq_iff_eq] at apart
      rcases apart with ((letter | rfl) | rfl) | rfl
      · exact startsMark_of_isIdentifierStart rest (isIdentifierStart_of_isPlain (by simp [letter]))
      · rfl
      · rfl
      · rfl

/-- Between its quotes, a text of letters and blanks is read as it is. -/
theorem cooked?_plain
    {content : List Char}
    (plain : ∀ c ∈ content, (c.isAlpha || c == ' ') = true)
    (text : List Char) :
    cooked? .text (content ++ '"' :: text) = some (content, text) := by
  induction content with
  | nil => rfl
  | cons c rest later =>
      obtain ⟨first, others⟩ := List.forall_mem_cons.mp plain
      have apart : ∀ d : Char, (d.isAlpha || d == ' ') = false → (c == d) = false := by
        intro d none
        rw [beq_eq_false_iff_ne]
        rintro rfl
        rw [first] at none
        cases none
      have stepped : Cooked.step .text .plain c = .goOn .plain [c] := by
        simp [Cooked.step, Cooked.stepPlain, apart '"' (by decide), apart '\r' (by decide),
          apart '\\' (by decide), Alphabet.allows]
      have tail := later others
      rw [cooked?] at tail ⊢
      rw [List.cons_append, Text.scan, stepped]
      simp only [tail, Option.map_some, List.singleton_append]

theorem quoted?_plain
    {content : List Char}
    (plain : ∀ c ∈ content, (c.isAlpha || c == ' ') = true) :
    quoted? (Literal.plain content).spelling = some (.plain content, []) := by
  have noSuffix : afterSuffix [] = [] := rfl
  rw [Literal.plain, quoted?, cooked?_plain plain]
  simp only [stringTo, literalTo, spellingBefore, noSuffix, Option.map_some, List.length_nil,
    Nat.sub_zero, List.take_length]

end Token

namespace Spaced

/-- Texts go on behind others. -/
theorem append
    {pieces others : List (List Char)}
    {text more : List Char}
    (left : Spaced pieces text)
    (right : Spaced others more) :
    Spaced (pieces ++ others) (text ++ more) := by
  induction left with
  | nil => exact right
  | blank isBlank _ joined => exact .blank isBlank joined
  | cons piece _ joined =>
      rw [List.append_assoc]
      exact .cons piece joined

theorem single (piece : List Char) : Spaced [piece] piece := by
  have alone := Spaced.cons piece .nil
  rwa [List.append_nil] at alone

/-- A blank in front changes nothing. -/
theorem space
    {pieces : List (List Char)}
    {text : List Char}
    (spaced : Spaced pieces text) :
    Spaced pieces (' ' :: text) :=
  .blank (by decide) spaced

end Spaced

namespace TokenTree

mutual

/-- A tree is written in order. -/
theorem spaced_text (tree : TokenTree) : Spaced tree.pieces tree.text := by
  cases tree with
  | name text => exact .single text
  | mark symbol _ => exact .single [symbol]
  | literal written => exact .single written.spelling
  | group delimiter content =>
      have inner := spaced_textOfList content
      cases delimiter with
      | parenthesis => exact .cons ['('] (inner.append (.single [')']))
      | bracket => exact .cons ['['] (inner.append (.single [']']))
      | brace =>
          have closing : Spaced [['\x7d']] (Delimiter.brace.closing content.isEmpty) := by
            rw [Delimiter.closing]
            split
            · exact .single _
            · exact (Spaced.single _).space
          exact .cons ['\x7b'] (inner.append closing).space
      | invisible =>
          have whole := inner.append .nil
          rwa [List.append_nil] at whole

/-- So is a stream. -/
theorem spaced_textOfList (trees : Trees) : Spaced (piecesOfList trees) (textOfList trees) := by
  cases trees with
  | nil => exact .nil
  | cons tree rest =>
      have first := spaced_text tree
      have others := spaced_textOfList rest
      cases rest with
      | nil => exact first.append others
      | cons next more =>
          rw [textOfList]
          refine first.append ?_
          split
          · exact others
          · exact others.space

end

end TokenTree

namespace FrontEnd

open Token

theorem cutsCalls_standalone : standalone.CutsCalls where
  nothing := rfl
  blank := lexemes?_blank
  word _ _ _ plain ends read := lexemes?_word plain.isWord ends.endsName read
  mark symbol text more isMark read := by
    refine ⟨_, lexemes?_of_step? (step?_callMark isMark text) (Nat.le_refl _) read, ?_, ?_⟩
    · intro starts
      rw [starts.startsMark, if_pos rfl]
    · intro apart
      rw [apart.startsMark]
      rfl
  opening noSlash read := by
    refine lexemes?_parenthesis (fun c first => ?_) read
    rintro rfl
    exact noSlash first
  closing := lexemes?_closing
  quoted content plain := by
    have cut := lexemes?_quoted (quoted?_plain (List.all_eq_true.mp plain)) endsWord_nil rfl
    rwa [List.append_nil] at cut
  literal {written text more} isToken read := by
    rcases isSpelled_of_lexemes? isToken with rfl | spelled
    · exact lexemes?_unreadable read
    · exact spelled.lexemes? (endsNumber_cons text (by decide)) read
  noComment {written} isToken := by
    rcases isSpelled_of_lexemes? isToken with rfl | spelled
    · decide
    · exact spelled.head?_ne_slash

/-- Every literal of a source text is a token by itself. -/
theorem isToken_standalone_of_literal?
    {text rest : List Char}
    {written : Literal}
    (read : literal? text = some (written, rest)) :
    standalone.IsToken written := by
  have ends : EndsNumber [] := ⟨endsWord_nil, by simp [Prolongs]⟩
  have cut := (isSpelled_of_literal? read).lexemes? ends rfl
  rwa [List.append_nil] at cut

theorem writesLiterals_standalone : standalone.WritesLiterals :=
  fun written => List.append_nil written.spelling

theorem writesInOrder_standalone : standalone.WritesInOrder :=
  TokenTree.spaced_textOfList

theorem endsAtCommas_standalone : standalone.EndsAtCommas where
  needsToken := (Expression.needsToken _).expression rfl
  comma _ _ := rfl
  inFront trees expression spacing rest read := by
    have deeper := (Expression.readsDeeper _).expression
      (Trees.endsArgument_comma spacing rest) read
    have shallow : Expression.depthBound trees + 1 ≤
        Expression.depthBound (trees ++ .mark ',' spacing :: rest) := by
      have comma : weightOfList (.mark ',' spacing :: rest) = 1 + weightOfList rest := rfl
      rw [Expression.depthBound, Expression.depthBound, weightOfList_append, comma]
      omega
    exact Expression.ReadsWhole.of_le (fun steps => (Expression.readsDeeper steps).expression.whole)
      shallow deeper

theorem leavesLess_standalone : standalone.LeavesLess := by
  intro trees expression rest behind read comma
  have less : weightOfList behind + 1 ≤ weightOfList rest := Trees.weight_of_afterSymbol? comma
  exact Nat.lt_of_lt_of_le less ((Expression.leaves _).expression read)

/-- The readers of the front end could not go deeper than they may. -/
theorem expression?_standalone
    {steps : Nat}
    {trees : Trees}
    (enough : Expression.depthBound trees ≤ steps) :
    standalone.expression? trees = Expression.expression? steps trees :=
  (Expression.expression?_of_depthBound_le enough).symm

/-- So the front end never leaves off reading arguments where it could go on. -/
theorem arguments?_standalone
    {trees rest behind : Trees}
    {first : Expression}
    (read : standalone.expression? trees = some (first, rest))
    (goesOn : rest ≠ [])
    (comma : standalone.afterComma? rest = some behind) :
    standalone.arguments? trees = (standalone.arguments? behind).map (first :: ·) :=
  arguments?_of_afterComma? read goesOn comma (leavesLess_standalone _ _ _ _ read comma)

end FrontEnd

end CheckedLiterals
