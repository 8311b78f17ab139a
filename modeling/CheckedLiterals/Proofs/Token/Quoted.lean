import CheckedLiterals.Proofs.Token.Extent

namespace CheckedLiterals.Token

/-!
# What a quoted literal takes

A reader that goes from character to character takes a piece off the front of the text
and never looks behind it.  So a quoted literal is read from its own spelling alone, and
from its spelling with any text behind that does not prolong its suffix.
-/

open Text (Verdict scan isIdentifierStart isIdentifierContinue)

/-- Whether no word goes on where the text begins. -/
def EndsWord (text : List Char) : Prop :=
  ∀ c ∈ text.head?, isIdentifierContinue c = false

theorem endsWord_nil : EndsWord [] := by
  simp [EndsWord]

theorem endsWord_cons
    {c : Char}
    (text : List Char)
    (stops : isIdentifierContinue c = false) :
    EndsWord (c :: text) := by
  simpa [EndsWord] using stops

theorem isIdentifierContinue_of_isIdentifierStart
    {c : Char}
    (starts : isIdentifierStart c = true) :
    isIdentifierContinue c = true := by
  unfold isIdentifierStart at starts
  unfold isIdentifierContinue
  split at starts
  · case isTrue ascii =>
      rw [if_pos ascii]
      rcases Bool.or_eq_true_iff.mp starts with letter | underscore
      · simp [Char.isAlphanum, letter]
      · simp [underscore]
  · case isFalse ascii =>
      rw [if_neg ascii, starts]
      rfl

/-- The word at the beginning of a text is taken off up to where it ends. -/
theorem EndsWord.dropWhile_append
    {word more : List Char}
    (inside : ∀ c ∈ word, isIdentifierContinue c = true)
    (ends : EndsWord more) :
    (word ++ more).dropWhile isIdentifierContinue = more := by
  rw [List.dropWhile_append_of_pos inside]
  cases more with
  | nil => rfl
  | cons c behind => exact List.dropWhile_cons_of_neg (by simp [ends c rfl])

theorem EndsWord.afterIdentifier?
    {text : List Char}
    (ends : EndsWord text) :
    afterIdentifier? text = none := by
  cases text with
  | nil => rfl
  | cons c behind =>
      have stops : isIdentifierStart c ≠ true := fun starts => by
        simpa [ends c rfl] using isIdentifierContinue_of_isIdentifierStart starts
      rw [Token.afterIdentifier?, if_neg stops]

/-- Whether a reader takes a piece off the front of a text and reads it the same before any text. -/
def TakesFront
    {Value : Type}
    (reader : List Char → Option (Value × List Char)) :
    Prop :=
  ∀ {text value rest},
    reader text = some (value, rest) →
      ∃ front, text = front ++ rest ∧ ∀ more, reader (front ++ more) = some (value, more)

/-- A scanner decides by the characters up to the one that completes what it reads. -/
theorem takesFront_scan
    {State : Type}
    (step : State → Char → Verdict State)
    (state : State) :
    TakesFront (scan step state) := by
  intro text value rest scanned
  induction text generalizing state value with
  | nil => cases scanned
  | cons c text tailTakes =>
      rw [scan] at scanned
      split at scanned
      · case h_1 next given went =>
          obtain ⟨⟨later, remaining⟩, more, shape⟩ := Option.map_eq_some_iff.mp scanned
          cases shape
          obtain ⟨front, rfl, again⟩ := tailTakes next more
          refine ⟨c :: front, rfl, fun other => ?_⟩
          rw [List.cons_append, scan, went]
          simp only [again other, Option.map_some]
      · case h_2 completed =>
          cases scanned
          refine ⟨[c], rfl, fun other => ?_⟩
          rw [List.singleton_append, scan, completed]
      · cases scanned

/-- A raw text is fenced by the number signs in front, which end with the quote. -/
theorem takesFront_raw? (alphabet : Alphabet) : TakesFront (raw? alphabet) := by
  intro text value rest read
  rw [raw?] at read
  split at read
  · case h_1 behind shape =>
      split at read
      · case isTrue short =>
          obtain ⟨body, rfl, again⟩ := takesFront_scan _ _ read
          refine ⟨text.takeWhile (· == '#') ++ '"' :: body, ?_, fun more => ?_⟩
          · rw [List.append_assoc, List.cons_append, ← shape, List.takeWhile_append_dropWhile]
          · have signs : ∀ c ∈ text.takeWhile (· == '#'), (c == '#') = true := fun c member =>
              List.all_eq_true.mp List.all_takeWhile c member
            have quote : ('"' == '#') = false := rfl
            rw [raw?, List.append_assoc, List.cons_append, List.takeWhile_append_of_pos signs,
              List.dropWhile_append_of_pos signs]
            simp only [List.takeWhile_cons, List.dropWhile_cons, quote, Bool.false_eq_true,
              ↓reduceIte, List.append_nil]
            rw [if_pos short]
            exact again more
      · cases read
  · cases read

/-- A suffix is as much of a word as stands behind a literal, and maybe nothing. -/
theorem exists_of_afterSuffix (text : List Char) :
    ∃ suffix,
      text = suffix ++ afterSuffix text ∧
        ∀ more, EndsWord more → afterSuffix (suffix ++ more) = more := by
  cases read : afterIdentifier? text with
  | none =>
      refine ⟨[], by simp [afterSuffix, read], fun more ends => ?_⟩
      rw [List.nil_append, afterSuffix, ends.afterIdentifier?]
      rfl
  | some rest =>
      obtain ⟨c, back, rfl, starts, _⟩ := exists_of_afterIdentifier? read
      rw [afterIdentifier?, if_pos starts] at read
      cases read
      refine ⟨c :: back.takeWhile isIdentifierContinue, ?_, fun more ends => ?_⟩
      · simp [afterSuffix, afterIdentifier?, starts, List.takeWhile_append_dropWhile]
      · have inside : ∀ c ∈ back.takeWhile isIdentifierContinue, isIdentifierContinue c = true :=
          fun c member => List.all_eq_true.mp List.all_takeWhile c member
        simp [afterSuffix, afterIdentifier?, starts, ends.dropWhile_append inside]

/-- A literal is spelled by the letters in front, by its content and by its suffix. -/
theorem spelling_of_content
    {Value : Type}
    {reader : List Char → Option (Value × List Char)}
    (takes : TakesFront reader)
    (form : Value → LiteralForm)
    (letters : List Char)
    {content rest : List Char}
    {written : Literal}
    (unfolds : ∀ content,
      quoted? (letters ++ content) =
        (reader content).map
          fun found => literalTo (form found.1) (letters ++ content) found.2)
    (read : quoted? (letters ++ content) = some (written, rest)) :
    letters ++ content = written.spelling ++ rest ∧
      ∀ more, EndsWord more → quoted? (written.spelling ++ more) = some (written, more) := by
  rw [unfolds] at read
  obtain ⟨⟨value, behind⟩, isContent, shape⟩ := Option.map_eq_some_iff.mp read
  obtain ⟨front, rfl, again⟩ := takes isContent
  obtain ⟨suffix, split, ended⟩ := exists_of_afterSuffix behind
  obtain ⟨literalShape, rfl⟩ := Prod.mk.inj shape
  generalize afterSuffix behind = rest at split literalShape
  subst split
  have whole : ∀ more : List Char,
      letters ++ (front ++ (suffix ++ more)) = letters ++ (front ++ suffix) ++ more := by simp
  have spelled : ∀ more : List Char,
      spellingBefore (letters ++ (front ++ (suffix ++ more))) more =
        letters ++ (front ++ suffix) := by
    intro more
    rw [whole, spellingBefore_append _ (Nat.le_refl _)]
    simp
  rw [spelled] at literalShape
  subst literalShape
  refine ⟨whole rest, fun more ends => ?_⟩
  rw [← whole, unfolds, again, Option.map_some, literalTo, ended more ends, spelled]

/-- A quoted literal begins the text with its spelling, and is read from it before any text. -/
theorem spelling_of_quoted?
    {text rest : List Char}
    {written : Literal}
    (read : quoted? text = some (written, rest)) :
    text = written.spelling ++ rest ∧
      ∀ more, EndsWord more → quoted? (written.spelling ++ more) = some (written, more) := by
  have single : ∀ (alphabet : Alphabet) (form : LiteralForm) (text content : List Char),
      (single? alphabet content).map (literalTo form text) =
        (scan (Single.step alphabet) .start content).map
          fun found => literalTo form text found.2 := fun alphabet form text content => by
    rw [single?, Option.map_map]
    rfl
  unfold quoted? at read
  split at read
  · exact spelling_of_content (takesFront_scan _ _) .string ['"'] (fun _ => rfl) read
  · exact spelling_of_content (takesFront_raw? _) .string ['r'] (fun _ => rfl) read
  · exact spelling_of_content (takesFront_scan _ _) (fun _ => .byteString)
      ['b', '"'] (fun _ => rfl) read
  · exact spelling_of_content (takesFront_raw? _) (fun _ => .byteString)
      ['b', 'r'] (fun _ => rfl) read
  · exact spelling_of_content (takesFront_scan _ _) (fun _ => .byte)
      ['b', '\''] (fun _ => single ..) read
  · exact spelling_of_content (takesFront_scan _ _) (fun _ => .nulTerminated)
      ['c', '"'] (fun _ => rfl) read
  · exact spelling_of_content (takesFront_raw? _) (fun _ => .nulTerminated)
      ['c', 'r'] (fun _ => rfl) read
  · exact spelling_of_content (takesFront_scan _ _) (fun _ => .character)
      ['\''] (fun _ => single ..) read
  · cases read

end CheckedLiterals.Token
