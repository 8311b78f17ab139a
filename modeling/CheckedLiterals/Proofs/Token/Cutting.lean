import Mathlib.Data.Bool.AllAny
import Mathlib.Data.List.TakeWhile
import CheckedLiterals.Proofs.Text.Characters
import CheckedLiterals.Proofs.Token.Quoted

namespace CheckedLiterals.Token

/-!
# Cutting code piece by piece

Code is cut at sight: what the first lexeme is does not depend on what has been cut
before, and so the lexemes of a text are those of its first piece and those of what
remains.  The pieces that code is put together from here are words, parentheses, blanks
and quoted literals.
-/

open Text (isIdentifierStart isIdentifierContinue)

/-- Steps to spare change nothing. -/
theorem lexemesWithin_succ
    {steps : Nat}
    {text : List Char}
    {lexemes : List Lexeme}
    (read : lexemesWithin steps text = some lexemes) :
    lexemesWithin (steps + 1) text = some lexemes := by
  induction steps generalizing text lexemes with
  | zero =>
      cases text with
      | nil => exact read
      | cons => cases read
  | succ steps spare =>
      cases text with
      | nil => exact read
      | cons c rest =>
          rw [lexemesWithin] at read ⊢
          split at read
          · case h_1 found remaining stepped =>
              obtain ⟨more, moreRead, rfl⟩ := Option.map_eq_some_iff.mp read
              simp only [spare moreRead, Option.map_some]
          · cases read

theorem lexemesWithin_of_le
    {few many : Nat}
    {text : List Char}
    {lexemes : List Lexeme}
    (enough : few ≤ many)
    (read : lexemesWithin few text = some lexemes) :
    lexemesWithin many text = some lexemes := by
  induction enough with
  | refl => exact read
  | step _ spare => exact lexemesWithin_succ spare

/-- The first step gives the first lexemes, and the others are those of what remains. -/
theorem lexemes?_of_step?
    {c : Char}
    {rest remaining : List Char}
    {found more : List Lexeme}
    (stepped : step? c rest = some (found, remaining))
    (shorter : remaining.length ≤ rest.length)
    (read : lexemes? remaining = some more) :
    lexemes? (c :: rest) = some (found ++ more) := by
  rw [lexemes?, List.length_cons, lexemesWithin, stepped]
  simp only [lexemesWithin_of_le shorter read, Option.map_some]

/-- A character that begins neither a comment nor a blank begins a lexeme. -/
theorem step?_eq_lexeme?
    {c : Char}
    (noSlash : c ≠ '/')
    (noBlank : isBlank c = false)
    (rest : List Char) :
    step? c rest = lexeme? c rest := by
  have noComment : afterBlankComment? (c :: rest) = none := by
    unfold afterBlankComment?
    split <;> simp_all
  have noDocumentation : documentationLexemes? (c :: rest) = none := by
    have none : documentation? (c :: rest) = none := by
      unfold documentation?
      split <;> simp_all
    rw [documentationLexemes?, none]
  rw [step?, noComment, noDocumentation]
  simp only [noBlank, Bool.false_eq_true, ↓reduceIte]

/-- Whether a character begins neither a comment nor a blank nor a group. -/
def BeginsLeaf (c : Char) : Prop :=
  c ≠ '/' ∧ isBlank c = false ∧ (delimiter? c).isNone = true

instance (c : Char) : Decidable (BeginsLeaf c) :=
  inferInstanceAs (Decidable (_ ∧ _ ∧ _))

/-- Where a single token begins, that token is the next lexeme. -/
theorem lexemes?_of_leaf?
    {c : Char}
    {back tail : List Char}
    {tree : TokenTree}
    {more : List Lexeme}
    (begins : BeginsLeaf c)
    (leaf : leaf? (c :: back ++ tail) = some (tree, tail))
    (read : lexemes? tail = some more) :
    lexemes? (c :: back ++ tail) = some (.tree tree :: more) := by
  obtain ⟨noSlash, noBlank, noDelimiter⟩ := begins
  rw [Option.isNone_iff_eq_none] at noDelimiter
  have readable : unreadableSpelling.isPrefixOf (c :: (back ++ tail)) = false := by
    have noParenthesis : '(' ≠ c := by
      rintro rfl
      cases noDelimiter
    rw [Bool.eq_false_iff]
    intro opens
    exact noParenthesis (List.cons_prefix_cons.mp (List.isPrefixOf_iff_prefix.mp opens)).1
  have stepped : step? c (back ++ tail) = some ([.tree tree], tail) := by
    rw [List.cons_append] at leaf
    rw [step?_eq_lexeme? noSlash noBlank, lexeme?]
    simp only [readable, noDelimiter, leaf, Bool.false_eq_true, ↓reduceIte, Option.map_some]
  exact lexemes?_of_step? stepped (by simp) read

/-- An opening parenthesis is cut off alone, where no comment is behind it. -/
theorem lexemes?_parenthesis
    {tail : List Char}
    {more : List Lexeme}
    (noSlash : ∀ c ∈ tail.head?, c ≠ '/')
    (read : lexemes? tail = some more) :
    lexemes? ('(' :: tail) = some (.opening .parenthesis :: more) := by
  have readable : unreadableSpelling.isPrefixOf ('(' :: tail) = false := by
    rw [Bool.eq_false_iff]
    intro opens
    obtain ⟨behind, shape⟩ := List.isPrefixOf_iff_prefix.mp opens
    obtain ⟨_, rfl⟩ := List.cons.inj shape
    exact noSlash '/' rfl rfl
  have stepped : step? '(' tail = some ([.opening .parenthesis], tail) := by
    rw [step?_eq_lexeme? (by decide) (by decide), lexeme?, readable]
    rfl
  exact lexemes?_of_step? stepped (Nat.le_refl _) read

/-- The characters that stand behind the letters of a quoted literal. -/
def quoteMarks : List Char :=
  ['"', '#', '\'']

/-- Whether a mark of a quoted literal ends the word, maybe an empty one, that begins the text. -/
def QuoteEndsWord (text : List Char) : Prop :=
  ∃ c ∈ quoteMarks, (text.dropWhile isIdentifierContinue).head? = some c

/-- A raw text begins with its fence or with the quote. -/
theorem exists_mark_of_raw?
    {alphabet : Alphabet}
    {text : List Char}
    {found : List Char × List Char}
    (read : raw? alphabet text = some found) :
    ∃ c back, c ∈ quoteMarks ∧ text = c :: back := by
  cases text with
  | nil => cases read
  | cons c back =>
      refine ⟨c, back, ?_, rfl⟩
      by_cases sign : c = '#'
      · subst sign
        decide
      · rw [raw?, List.dropWhile_cons_of_neg (by simpa using sign)] at read
        split at read
        · case h_1 shape =>
            rw [(List.cons.inj shape).1]
            decide
        · cases read

theorem quoteEndsWord_append
    {letters back : List Char}
    {c : Char}
    (inside : ∀ d ∈ letters, isIdentifierContinue d = true)
    (isMark : c ∈ quoteMarks) :
    QuoteEndsWord (letters ++ c :: back) := by
  have stops : ∀ d ∈ quoteMarks, isIdentifierContinue d = false :=
    List.all_iff_forall_prop.mp (by decide)
  refine ⟨c, isMark, ?_⟩
  rw [(endsWord_cons back (stops c isMark)).dropWhile_append inside]
  rfl

/-- Every quoted literal begins with letters and a mark. -/
theorem quoteEndsWord_of_quoted?
    {text : List Char}
    {found : Literal × List Char}
    (read : quoted? text = some found) :
    QuoteEndsWord text := by
  have raw : ∀ (letters : List Char) {text : List Char} {alphabet : Alphabet}
      {literal : List Char × List Char → Literal × List Char},
      (∀ d ∈ letters, isIdentifierContinue d = true) →
      (raw? alphabet text).map literal = some found →
      QuoteEndsWord (letters ++ text) := by
    intro letters text alphabet literal inside isLiteral
    obtain ⟨content, isRaw, _⟩ := Option.map_eq_some_iff.mp isLiteral
    obtain ⟨c, back, isMark, rfl⟩ := exists_mark_of_raw? isRaw
    exact quoteEndsWord_append inside isMark
  unfold quoted? at read
  split at read
  · exact ⟨'"', by decide, rfl⟩
  · exact raw ['r'] (List.all_iff_forall_prop.mp (by decide)) read
  · exact ⟨'"', by decide, rfl⟩
  · exact raw ['b', 'r'] (List.all_iff_forall_prop.mp (by decide)) read
  · exact ⟨'\'', by decide, rfl⟩
  · exact ⟨'"', by decide, rfl⟩
  · exact raw ['c', 'r'] (List.all_iff_forall_prop.mp (by decide)) read
  · exact ⟨'\'', by decide, rfl⟩
  · cases read

theorem quoteEndsWord_of_isPrefixOf
    {opening text : List Char}
    (member : opening ∈ quotedOpenings)
    (opens : opening.isPrefixOf text = true) :
    QuoteEndsWord text := by
  obtain ⟨behind, rfl⟩ := List.isPrefixOf_iff_prefix.mp opens
  have marked : ∀ opening ∈ quotedOpenings,
      (opening.dropWhile isIdentifierContinue).head?.any quoteMarks.contains = true := by
    decide
  obtain ⟨c, head, isMark⟩ := (Option.any_eq_true _ _).mp (marked opening member)
  have notAll : opening.dropWhile isIdentifierContinue ≠ [] := by
    intro none
    rw [none] at head
    cases head
  refine ⟨c, List.contains_iff_mem.mp isMark, ?_⟩
  rw [List.dropWhile_append, if_neg (by simpa using notAll), List.head?_append, head]
  rfl

/-- Whether a name ends where the text begins. -/
def EndsName (text : List Char) : Prop :=
  ∀ c ∈ text.head?, isIdentifierContinue c = false ∧ c ∉ quoteMarks

theorem endsName_cons
    {c : Char}
    (text : List Char)
    (stops : isIdentifierContinue c = false ∧ c ∉ quoteMarks) :
    EndsName (c :: text) := by
  simpa [EndsName] using stops

theorem EndsName.endsWord
    {text : List Char}
    (ends : EndsName text) :
    EndsWord text :=
  fun c head => (ends c head).1

/-- A text is a word if it is all of the identifier at its beginning. -/
def IsWord (word : List Char) : Prop :=
  afterIdentifier? word = some []

instance (word : List Char) : Decidable (IsWord word) :=
  inferInstanceAs (Decidable (afterIdentifier? word = some []))

theorem IsWord.exists_cons
    {word : List Char}
    (isWord : IsWord word) :
    ∃ c back,
      word = c :: back ∧
        isIdentifierStart c = true ∧
        ∀ d ∈ word, isIdentifierContinue d = true := by
  obtain ⟨c, back, rfl, starts, _⟩ := exists_of_afterIdentifier? isWord
  rw [IsWord, afterIdentifier?, if_pos starts, Option.some.injEq, List.dropWhile_eq_nil_iff]
    at isWord
  exact ⟨c, back, rfl, starts,
    List.forall_mem_cons.mpr ⟨isIdentifierContinue_of_isIdentifierStart starts, isWord⟩⟩

/-- The beginning of an identifier begins nothing else. -/
theorem beginsLeaf_of_isIdentifierStart
    {c : Char}
    (starts : isIdentifierStart c = true) :
    BeginsLeaf c := by
  have apart : ∀ d, isIdentifierStart d = false → c ≠ d := by
    rintro d none rfl
    rw [starts] at none
    cases none
  refine ⟨apart _ (by decide), ?_, ?_⟩
  · have left := apart '\u200e' (by decide +kernel)
    have right := apart '\u200f' (by decide +kernel)
    simp [isBlank, Text.not_blank_of_isIdentifierStart starts, left, right]
  · unfold delimiter?
    split
    all_goals first | rfl | exact absurd rfl (apart _ (by decide))

/-- The beginning of an identifier begins no number. -/
theorem number?_of_isIdentifierStart
    {c : Char}
    (text : List Char)
    (starts : isIdentifierStart c = true) :
    number? (c :: text) = none := by
  have noDigit := Text.not_digit_of_isIdentifierStart starts
  have zero : c ≠ '0' := by
    rintro rfl
    cases noDigit
  have noInteger : afterIntegerDigits? (c :: text) = none := by
    unfold afterIntegerDigits?
    split <;> simp_all
  simp [number?, afterFloat?, afterInteger?, noInteger, noDigit]

/-- The beginning of an identifier is no mark. -/
theorem startsMark_of_isIdentifierStart
    {c : Char}
    (text : List Char)
    (starts : isIdentifierStart c = true) :
    startsMark (c :: text) = false := by
  have apart : ∀ d ∈ marks, isIdentifierStart d = false :=
    List.all_iff_forall_prop.mp (by decide +kernel)
  unfold startsMark
  split
  · rfl
  · rfl
  · case h_3 shape =>
      obtain ⟨rfl, _⟩ := List.cons.inj shape
      rw [Bool.eq_false_iff]
      intro isMark
      rw [apart c (by simpa using isMark)] at starts
      cases starts
  · rfl

/-- The identifier at the beginning of a text is the word, where no quote ends it. -/
theorem identifier?_word
    {word tail : List Char}
    (isWord : IsWord word)
    (ends : EndsWord tail)
    (noQuote : ¬QuoteEndsWord (word ++ tail)) :
    identifier? (word ++ tail) = some (word, tail) := by
  obtain ⟨c, back, rfl, starts, inside⟩ := isWord.exists_cons
  have taken : afterIdentifier? (c :: back ++ tail) = some tail := by
    rw [List.cons_append, afterIdentifier?, if_pos starts,
      ends.dropWhile_append fun d member => inside d (List.mem_cons_of_mem _ member)]
  have spelled : spellingBefore (c :: back ++ tail) tail = c :: back := by
    simpa using spellingBefore_append (c :: back) (Nat.le_refl tail.length)
  unfold identifier?
  split
  · case h_1 shape =>
      rw [shape] at noQuote
      exact absurd ⟨'#', by decide, rfl⟩ noQuote
  · rw [taken, Option.map_some, spelled]

/-- A word is a name, where it ends and no quote is behind it. -/
theorem leaf?_word
    {word tail : List Char}
    (isWord : IsWord word)
    (ends : EndsName tail) :
    leaf? (word ++ tail) = some (.name word, tail) := by
  obtain ⟨c, back, rfl, starts, inside⟩ := isWord.exists_cons
  have noQuote : ¬QuoteEndsWord (c :: back ++ tail) := by
    rintro ⟨quote, isMark, head⟩
    rw [ends.endsWord.dropWhile_append inside] at head
    exact (ends quote head).2 isMark
  have notQuoted : quoted? (c :: back ++ tail) = none :=
    Option.eq_none_iff_forall_ne_some.mpr fun found read =>
      noQuote (quoteEndsWord_of_quoted? read)
  have notOpening : quotedOpenings.any (·.isPrefixOf (c :: back ++ tail)) = false := by
    rw [Bool.eq_false_iff]
    intro opens
    obtain ⟨opening, member, opens⟩ := List.any_eq_true.mp opens
    exact noQuote (quoteEndsWord_of_isPrefixOf member opens)
  have noNumber := number?_of_isIdentifierStart (back ++ tail) starts
  have noMark : mark? (c :: back ++ tail) = none := by
    rw [List.cons_append, mark?, startsMark_of_isIdentifierStart _ starts]
    rfl
  rw [← List.cons_append] at noNumber
  rw [leaf?, literal?, notQuoted, noNumber]
  simp only [noMark, name?, notOpening, identifier?_word isWord ends.endsWord noQuote,
    Bool.false_eq_true, ↓reduceIte, Option.map_some]

theorem lexemes?_word
    {word tail : List Char}
    {more : List Lexeme}
    (isWord : IsWord word)
    (ends : EndsName tail)
    (read : lexemes? tail = some more) :
    lexemes? (word ++ tail) = some (.tree (.name word) :: more) := by
  have leaf := leaf?_word isWord ends
  obtain ⟨c, back, rfl, starts, _⟩ := isWord.exists_cons
  exact lexemes?_of_leaf? (beginsLeaf_of_isIdentifierStart starts) leaf read

theorem exists_of_quoted?
    {text : List Char}
    {found : Literal × List Char}
    (read : quoted? text = some found) :
    ∃ c back, text = c :: back ∧ c ∈ ['"', 'r', 'b', 'c', '\''] := by
  unfold quoted? at read
  split at read <;> simp_all

/-- A literal that is read from its own spelling is cut off whole, whatever follows its end. -/
theorem lexemes?_quoted
    {written : Literal}
    {tail : List Char}
    {more : List Lexeme}
    (quoted : quoted? written.spelling = some (written, []))
    (ends : EndsWord tail)
    (read : lexemes? tail = some more) :
    lexemes? (written.spelling ++ tail) = some (.tree (.literal written) :: more) := by
  have again := (spelling_of_quoted? quoted).2 tail ends
  have begins : ∀ c ∈ ['"', 'r', 'b', 'c', '\''], BeginsLeaf c :=
    List.all_iff_forall_prop.mp (by decide +kernel)
  obtain ⟨c, back, spelled, first⟩ := exists_of_quoted? quoted
  rw [spelled] at again ⊢
  refine lexemes?_of_leaf? (begins c first) ?_ read
  rw [leaf?, literal?, again]

/-- A blank is left out. -/
theorem lexemes?_blank
    {tail : List Char}
    {more : List Lexeme}
    (read : lexemes? tail = some more) :
    lexemes? (' ' :: tail) = some more := by
  have stepped : step? ' ' tail = some ([], tail) := rfl
  exact lexemes?_of_step? stepped (Nat.le_refl _) read

/-- A closing parenthesis is cut off alone. -/
theorem lexemes?_closing
    {tail : List Char}
    {more : List Lexeme}
    (read : lexemes? tail = some more) :
    lexemes? (')' :: tail) = some (.closing .parenthesis :: more) := by
  have stepped : step? ')' tail = some ([.closing .parenthesis], tail) := rfl
  exact lexemes?_of_step? stepped (Nat.le_refl _) read

end CheckedLiterals.Token
