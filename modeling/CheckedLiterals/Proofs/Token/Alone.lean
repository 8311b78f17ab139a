import CheckedLiterals.Proofs.Token.Literal

namespace CheckedLiterals.Token

/-!
# Literals that are cut by themselves

A text that is cut into one literal, and is the spelling of that literal, holds nothing besides:
a blank or a comment would make it longer than the spelling.  So the literal is what is read from
the text, but for the one that stands for a literal that could not be read.
-/

/-- A line takes nothing that is not there. -/
theorem length_splitLine_le (text : List Char) : (splitLine text).2.length ≤ text.length := by
  fun_induction splitLine text with
  | case1 => exact Nat.le_refl _
  | case2 => exact Nat.le_refl _
  | case3 => exact Nat.le_succ _
  | case4 c rest noReturn noFeed line remaining split shorter =>
      rw [split] at shorter
      exact Nat.le_succ_of_le shorter

/-- Nor does a comment that is enclosed. -/
theorem length_of_enclosed?
    {text rest : List Char}
    (read : (enclosed? text).map Prod.snd = some rest) :
    rest.length ≤ text.length := by
  obtain ⟨⟨_, behind⟩, isEnclosed, rfl⟩ := Option.map_eq_some_iff.mp read
  obtain ⟨⟨_, rest⟩, scanned, shape⟩ := Option.map_eq_some_iff.mp isEnclosed
  cases shape
  obtain ⟨front, rfl, _⟩ := takesFront_scan _ _ scanned
  simp

/-- A comment that counts as a blank takes at least its first character. -/
theorem length_of_afterBlankComment?
    {c : Char}
    {text rest : List Char}
    (read : afterBlankComment? (c :: text) = some rest) :
    rest.length ≤ text.length := by
  have line := length_splitLine_le
  have enclosed := @length_of_enclosed?
  unfold afterBlankComment? at read
  split at read <;> grind

/-- A step takes a blank, or two lexemes at least for documentation, or one lexeme. -/
theorem step?_cases
    {c : Char}
    {rest remaining : List Char}
    {found : List Lexeme}
    (stepped : step? c rest = some (found, remaining)) :
    found = [] ∧ remaining.length ≤ rest.length ∨
      2 ≤ found.length ∨
      lexeme? c rest = some (found, remaining) := by
  rw [step?] at stepped
  split at stepped
  · case h_1 comment =>
      cases stepped
      exact .inl ⟨rfl, length_of_afterBlankComment? comment⟩
  · split at stepped
    · cases stepped
      exact .inl ⟨rfl, Nat.le_refl _⟩
    · split at stepped
      · case h_1 documentation =>
          cases stepped
          rw [documentationLexemes?] at documentation
          split at documentation
          · case h_1 inner content behind _ =>
              split at documentation
              · cases documentation
              · cases documentation
                right
                left
                cases inner <;> simp [documentationTrees]
          · cases documentation
      · exact .inr (.inr stepped)

theorem length_of_lexeme?
    {c : Char}
    {rest remaining : List Char}
    {found : List Lexeme}
    (read : lexeme? c rest = some (found, remaining)) :
    found.length = 1 := by
  rw [lexeme?] at read
  split at read
  · cases read
    rfl
  · split at read
    · cases read
      rfl
    · obtain ⟨_, _, shape⟩ := Option.map_eq_some_iff.mp read
      cases shape
      rfl

/-- A literal that is cut off is read there, or stands for one that could not be. -/
theorem literal?_of_lexeme?
    {c : Char}
    {rest remaining : List Char}
    {written : Literal}
    (read : lexeme? c rest = some ([.tree (.literal written)], remaining)) :
    written = unreadableLiteral ∧ unreadableSpelling <+: c :: rest ∨
      literal? (c :: rest) = some (written, remaining) := by
  rw [lexeme?] at read
  split at read
  · case isTrue begins =>
      cases read
      exact .inl ⟨rfl, List.isPrefixOf_iff_prefix.mp begins⟩
  · split at read
    · case h_1 delimiter =>
        cases read
        unfold delimiter? at delimiter
        split at delimiter <;> cases delimiter
    · obtain ⟨⟨tree, behind⟩, leaf, shape⟩ := Option.map_eq_some_iff.mp read
      cases shape
      rw [leaf?] at leaf
      split at leaf
      · case h_1 found =>
          cases leaf
          exact .inr found
      · split at leaf
        · case h_1 mark =>
            cases leaf
            unfold mark? at mark
            split at mark
            · repeat' split at mark
              all_goals cases mark
            · cases mark
        · obtain ⟨_, _, shape⟩ := Option.map_eq_some_iff.mp leaf
          cases shape

/-- A literal takes its spelling off the text. -/
theorem spelling_of_literal?
    {text rest : List Char}
    {written : Literal}
    (read : literal? text = some (written, rest)) :
    text = written.spelling ++ rest := by
  rw [literal?] at read
  split at read
  · case h_1 quoted =>
      cases read
      exact (spelling_of_quoted? quoted).1
  · exact (exists_of_number? read).1

/-- By induction on the steps: only the step that takes the literal may take anything. -/
theorem spelling_of_lexemesWithin
    {steps : Nat}
    {text : List Char}
    {written : Literal}
    (read : lexemesWithin steps text = some [.tree (.literal written)]) :
    written.spelling.length ≤ text.length ∧
      (text.length ≤ written.spelling.length →
        written = unreadableLiteral ∨ literal? text = some (written, [])) := by
  induction steps generalizing text with
  | zero => cases text <;> cases read
  | succ steps later =>
      cases text with
      | nil => cases read
      | cons c rest =>
          rw [lexemesWithin] at read
          split at read
          · case h_1 found remaining stepped =>
              obtain ⟨more, moreRead, shape⟩ := Option.map_eq_some_iff.mp read
              rcases step?_cases stepped with ⟨rfl, shorter⟩ | two | isLexeme
              · rw [List.nil_append] at shape
                subst shape
                have short := (later moreRead).1
                simp only [List.length_cons]
                omega
              · have one := congrArg List.length shape
                simp only [List.length_append, List.length_singleton] at one
                omega
              · obtain ⟨lexeme, rfl⟩ := List.length_eq_one_iff.mp (length_of_lexeme? isLexeme)
                rw [List.singleton_append] at shape
                obtain ⟨rfl, rfl⟩ := List.cons.inj shape
                rcases literal?_of_lexeme? isLexeme with ⟨rfl, begins⟩ | isLiteral
                · exact ⟨begins.length_le, fun _ => .inl rfl⟩
                · have parts := spelling_of_literal? isLiteral
                  refine ⟨by simp [parts], fun whole => .inr ?_⟩
                  have none : remaining = [] := by
                    rw [parts, List.length_append] at whole
                    exact List.length_eq_zero_iff.mp (by omega)
                  rw [isLiteral, none]
          · cases read

/-- A literal that is cut by itself is just what it is spelled, or stands for one unread. -/
theorem isSpelled_of_lexemes?
    {written : Literal}
    (alone : lexemes? written.spelling = some [.tree (.literal written)]) :
    written = unreadableLiteral ∨ written.IsSpelled :=
  (spelling_of_lexemesWithin alone).2 (Nat.le_refl _)

/-- What stands for a literal that could not be read is cut off whole as well. -/
theorem lexemes?_unreadable
    {text : List Char}
    {more : List Lexeme}
    (read : lexemes? text = some more) :
    lexemes? (unreadableSpelling ++ text) = some (.tree (.literal unreadableLiteral) :: more) := by
  have stepped : step? '(' ("/*ERROR*/)".toList ++ text) =
      some ([.tree (.literal unreadableLiteral)], text) := rfl
  refine lexemes?_of_step? stepped ?_ read
  rw [List.length_append]
  exact Nat.le_add_left ..

end CheckedLiterals.Token
