import CheckedLiterals.Proofs.Text.Characters
import CheckedLiterals.Proofs.Token.Quoted

namespace CheckedLiterals.Token

/-!
# What a number literal takes

The digits and the suffix of a number are parts of a word, and what stands behind the word
does not matter to them.  Only a point or a sign behind a word may prolong the number, and
then takes from what is behind.  So a number is read from its own spelling, and from its
spelling with any text behind that ends the word and begins with no point and no sign.
-/

open Text (isIdentifierStart isIdentifierContinue)

/-- The characters that may prolong a number behind a word. -/
def prolongations : List Char :=
  ['.', '+', '-']

/-- Whether a text may prolong the number in front of it. -/
def Prolongs (text : List Char) : Prop :=
  ∃ c ∈ text.head?, c ∈ prolongations

/-- Whether neither a word nor a number goes on where the text begins. -/
def EndsNumber (text : List Char) : Prop :=
  EndsWord text ∧ ¬Prolongs text

theorem endsNumber_cons
    {c : Char}
    (text : List Char)
    (stops : isIdentifierContinue c = false ∧ c ∉ prolongations) :
    EndsNumber (c :: text) :=
  ⟨endsWord_cons text stops.1, by simpa [Prolongs] using stops.2⟩

theorem isIdentifierContinue_of_isDigit
    {c : Char}
    (digit : c.isDigit = true) :
    isIdentifierContinue c = true := by
  have ascii : c.toNat < 0x80 := Nat.lt_of_le_of_lt (Text.bounds_of_isDigit digit).2 (by decide)
  simp [isIdentifierContinue, ascii, Char.isAlphanum, digit]

theorem isIdentifierContinue_of_isDigitOrUnderscore
    {c : Char}
    (digit : isDigitOrUnderscore c = true) :
    isIdentifierContinue c = true := by
  rcases Bool.or_eq_true_iff.mp digit with digit | underscore
  · exact isIdentifierContinue_of_isDigit digit
  · rw [beq_iff_eq.mp underscore]
    decide

theorem isIdentifierContinue_of_isDigitPart
    {base : Nat}
    {c : Char}
    (digit : isDigitPart base c = true) :
    isIdentifierContinue c = true := by
  rcases Bool.or_eq_true_iff.mp digit with digit | letter
  · exact isIdentifierContinue_of_isDigitOrUnderscore digit
  · have isAlpha : c.isAlpha = true := by
      simp only [Bool.and_eq_true, Bool.or_eq_true, decide_eq_true_eq] at letter
      rw [Text.isAlpha_iff]
      rcases letter.2 with small | capital
      · exact .inr ⟨small.1, Char.le_trans small.2 (by decide)⟩
      · exact .inl ⟨capital.1, Char.le_trans capital.2 (by decide)⟩
    have ascii : c.toNat < 0x80 := by
      rcases Text.isAlpha_iff.mp isAlpha with capital | small
      · exact Nat.lt_of_le_of_lt (UInt32.le_iff_toNat_le.mp capital.2) (by decide)
      · exact Nat.lt_of_le_of_lt (UInt32.le_iff_toNat_le.mp small.2) (by decide)
    simp [isIdentifierContinue, ascii, Char.isAlphanum, isAlpha]

/-- The marks of the bases that integer literals may name. -/
def baseMarks : List Char :=
  ['x', 'o', 'b']

/-- Whether a text begins with the name of a base. -/
def NamesBase (text : List Char) : Prop :=
  ∃ mark ∈ baseMarks, ∃ behind, text = '0' :: mark :: behind

theorem afterIntegerDigits?_of_plain
    {text : List Char}
    (plain : ¬NamesBase text) :
    afterIntegerDigits? text =
      if text.head?.any Char.isDigit then afterDigits? 10 text else none := by
  unfold afterIntegerDigits?
  split
  · exact absurd ⟨'x', by decide, _, rfl⟩ plain
  · exact absurd ⟨'o', by decide, _, rfl⟩ plain
  · exact absurd ⟨'b', by decide, _, rfl⟩ plain
  · rfl

namespace EndsWord

variable
  {rest : List Char}
  (ends : EndsWord rest)

include ends

/-- What only characters of words pass is over where a word ends. -/
theorem dropWhile_eq_self
    {test : Char → Bool}
    (inside : ∀ {c}, test c = true → isIdentifierContinue c = true) :
    rest.dropWhile test = rest := by
  cases rest with
  | nil => rfl
  | cons c behind =>
      refine List.dropWhile_cons_of_neg fun passes => ?_
      have stops := ends c rfl
      rw [inside passes] at stops
      cases stops

theorem dropWhile_append_of_inside
    {test : Char → Bool}
    (inside : ∀ {c}, test c = true → isIdentifierContinue c = true)
    (front : List Char) :
    (front ++ rest).dropWhile test = front.dropWhile test ++ rest := by
  rw [List.dropWhile_append, ends.dropWhile_eq_self inside]
  split
  · case isTrue none => rw [List.isEmpty_iff.mp none, List.nil_append]
  · rfl

theorem takeWhile_append_of_inside
    {test : Char → Bool}
    (inside : ∀ {c}, test c = true → isIdentifierContinue c = true)
    (front : List Char) :
    (front ++ rest).takeWhile test = front.takeWhile test := by
  have parts := List.takeWhile_append_dropWhile (p := test) (l := front ++ rest)
  rw [ends.dropWhile_append_of_inside inside, ← List.append_assoc,
    List.append_cancel_right_eq] at parts
  exact List.append_cancel_right (parts.trans List.takeWhile_append_dropWhile.symm)

theorem head?_ne_digit : rest.head?.any Char.isDigit = false := by
  cases rest with
  | nil => rfl
  | cons c behind =>
      rw [Bool.eq_false_iff]
      intro digit
      have stops := ends c rfl
      rw [isIdentifierContinue_of_isDigit (by simpa using digit)] at stops
      cases stops

theorem afterSuffix_append (front : List Char) :
    afterSuffix (front ++ rest) = afterSuffix front ++ rest := by
  cases front with
  | nil =>
      rw [List.nil_append, afterSuffix, ends.afterIdentifier?]
      rfl
  | cons c front =>
      rw [List.cons_append, afterSuffix, afterSuffix, Token.afterIdentifier?,
        Token.afterIdentifier?, ends.dropWhile_append_of_inside id]
      split <;> rfl

theorem afterNumberSuffix?_append (front : List Char) :
    afterNumberSuffix? (front ++ rest) = (afterNumberSuffix? front).map (· ++ rest) := by
  rw [afterNumberSuffix?, afterNumberSuffix?, ends.afterSuffix_append]
  cases afterSuffix front with
  | nil =>
      cases rest with
      | nil => rfl
      | cons c behind => simp [ends c rfl]
  | cons c behind =>
      simp only [List.cons_append]
      split <;> rfl

theorem afterDigits?_append
    (base : Nat)
    (front : List Char) :
    afterDigits? base (front ++ rest) = (afterDigits? base front).map (· ++ rest) := by
  simp only [afterDigits?,
    ends.takeWhile_append_of_inside (@isIdentifierContinue_of_isDigitPart base),
    ends.dropWhile_append_of_inside (@isIdentifierContinue_of_isDigitPart base)]
  split <;> rfl

theorem not_namesBase_append
    {front : List Char}
    (plain : ¬NamesBase front) :
    ¬NamesBase (front ++ rest) := by
  have letters : ∀ {c : Char} {behind : List Char},
      rest = c :: behind → isIdentifierContinue c ≠ true := by
    rintro c behind rfl inside
    rw [ends c rfl] at inside
    cases inside
  have marks : ∀ mark ∈ baseMarks, isIdentifierContinue mark = true :=
    List.all_eq_true.mp (by decide)
  rintro ⟨mark, isMark, behind, shape⟩
  match front with
  | [] => exact letters shape (by decide)
  | [_] => exact letters (List.cons.inj shape).2 (marks mark isMark)
  | _ :: _ :: _ =>
      cases shape
      exact plain ⟨mark, isMark, _, rfl⟩

theorem afterIntegerDigits?_append (front : List Char) :
    afterIntegerDigits? (front ++ rest) = (afterIntegerDigits? front).map (· ++ rest) := by
  by_cases plain : NamesBase front
  · obtain ⟨mark, isMark, behind, rfl⟩ := plain
    simp only [baseMarks, List.mem_cons, List.not_mem_nil, or_false] at isMark
    rcases isMark with rfl | rfl | rfl
    · exact ends.afterDigits?_append 16 behind
    · exact ends.afterDigits?_append 8 behind
    · exact ends.afterDigits?_append 2 behind
  · rw [afterIntegerDigits?_of_plain plain,
      afterIntegerDigits?_of_plain (ends.not_namesBase_append plain), ends.afterDigits?_append]
    cases front with
    | nil =>
        rw [List.nil_append, ends.head?_ne_digit]
        rfl
    | cons c front =>
        rw [List.cons_append, List.head?_cons, List.head?_cons]
        cases (some c).any Char.isDigit <;> rfl

/-- An integer literal does not depend on what is behind its word. -/
theorem afterInteger?_append (front : List Char) :
    afterInteger? (front ++ rest) = (afterInteger? front).map (· ++ rest) := by
  rw [afterInteger?, afterInteger?, ends.afterIntegerDigits?_append]
  cases afterIntegerDigits? front with
  | none => rfl
  | some behind => exact ends.afterNumberSuffix?_append behind

end EndsWord

/-- Whether a point in front of the text goes on there with another word or another point. -/
def pointGoesOn (text : List Char) : Bool :=
  text.head? == some '.' || startsIdentifier text

theorem afterFloatDigits?_of_point
    {text behind : List Char}
    (dropped : text.dropWhile isDigitOrUnderscore = '.' :: behind) :
    afterFloatDigits? text = if pointGoesOn behind then none else some (afterFraction behind) := by
  rw [afterFloatDigits?, dropped]
  rfl

/--
Whether a reader takes the same off a front, whatever is behind; or else what is behind may
prolong the number, and then all that the reader gives lies farther behind.
-/
def TakesApart
    (reader : List Char → Option (List Char))
    (front rest : List Char) :
    Prop :=
  reader (front ++ rest) = (reader front).map (· ++ rest) ∨
    Prolongs rest ∧
      (reader front = none ∨ '.' ∈ front) ∧
      ∀ remaining, reader (front ++ rest) = some remaining → remaining.length < rest.length

namespace EndsWord

variable
  {rest : List Char}
  (ends : EndsWord rest)

include ends

theorem dropWhile_underscore_append (front : List Char) :
    (front ++ rest).dropWhile (· == '_') = front.dropWhile (· == '_') ++ rest :=
  ends.dropWhile_append_of_inside (fun underscore => by rw [beq_iff_eq.mp underscore]; decide)
    front

theorem dropWhile_digits_append (front : List Char) :
    (front ++ rest).dropWhile isDigitOrUnderscore =
      front.dropWhile isDigitOrUnderscore ++ rest :=
  ends.dropWhile_append_of_inside isIdentifierContinue_of_isDigitOrUnderscore front

theorem afterExponentDigits?_append (front : List Char) :
    afterExponentDigits? (front ++ rest) = (afterExponentDigits? front).map (· ++ rest) := by
  rw [afterExponentDigits?, afterExponentDigits?, ends.dropWhile_underscore_append]
  cases front.dropWhile (· == '_') with
  | nil =>
      cases rest with
      | nil => rfl
      | cons c behind => simp [show c.isDigit = false by simpa using ends.head?_ne_digit]
  | cons c behind =>
      simp only [List.cons_append, ends.dropWhile_digits_append]
      split <;> rfl

/-- Only a sign behind a word may prolong an exponent, one that has no digits yet. -/
theorem afterExponent?_append (front : List Char) :
    afterExponent? (front ++ rest) = (afterExponent? front).map (· ++ rest) ∨
      Prolongs rest ∧
        afterExponent? front = none ∧
        ∀ remaining, afterExponent? (front ++ rest) = some remaining →
          remaining.length < rest.length := by
  rw [afterExponent?_eq, afterExponent?_eq, ends.dropWhile_underscore_append]
  cases front.dropWhile (· == '_') with
  | nil =>
      have shorter : ∀ {sign : Char} {behind remaining : List Char},
          afterExponentDigits? behind = some remaining →
          remaining.length < (sign :: behind).length := fun read =>
        Nat.lt_succ_of_le (suffix_of_afterExponentDigits? read).length_le
      rw [List.nil_append]
      unfold unsigned
      split
      · exact .inr ⟨⟨'+', rfl, by decide⟩, rfl, fun _ => shorter⟩
      · exact .inr ⟨⟨'-', rfl, by decide⟩, rfl, fun _ => shorter⟩
      · exact .inl (ends.afterExponentDigits?_append [])
  | cons c behind =>
      have signed : unsigned (c :: behind ++ rest) = unsigned (c :: behind) ++ rest := by
        unfold unsigned
        split
        · case h_1 shape => cases shape; rfl
        · case h_2 shape => cases shape; rfl
        · case h_3 noPlus noMinus =>
            split
            · case h_1 shape => cases shape; exact absurd rfl (noPlus _)
            · case h_2 shape => cases shape; exact absurd rfl (noMinus _)
            · rfl
      rw [signed]
      exact .inl (ends.afterExponentDigits?_append _)

theorem head?_ne_exponentMark : rest.head?.any isExponentMark = false := by
  cases rest with
  | nil => rfl
  | cons c behind =>
      have apart : ∀ d, isIdentifierContinue d = true → c ≠ d := by
        rintro d inside rfl
        rw [ends c rfl] at inside
        cases inside
      simp [isExponentMark, apart 'e' (by decide), apart 'E' (by decide)]

/-- The digits behind a point may only be prolonged by an exponent's sign. -/
theorem afterFraction_append (front : List Char) :
    afterFraction (front ++ rest) = afterFraction front ++ rest ∨
      Prolongs rest ∧ (afterFraction (front ++ rest)).length < rest.length := by
  rw [afterFraction, afterFraction, ends.dropWhile_digits_append]
  cases front.dropWhile isDigitOrUnderscore with
  | nil =>
      refine .inl ?_
      rw [List.nil_append]
      cases rest with
      | nil => rfl
      | cons c behind =>
          have noMark : isExponentMark c = false := by simpa using ends.head?_ne_exponentMark
          simp [noMark]
  | cons c behind =>
      simp only [List.cons_append]
      split
      · rcases ends.afterExponent?_append behind with apart | ⟨prolongs, none, shorter⟩
        · rw [apart]
          refine .inl ?_
          cases Token.afterExponent? behind <;> rfl
        · rw [none]
          cases read : Token.afterExponent? (behind ++ rest) with
          | none => exact .inl rfl
          | some remaining => exact .inr ⟨prolongs, shorter remaining read⟩
      · exact .inl rfl

theorem startsIdentifier_eq_false : startsIdentifier rest = false := by
  cases rest with
  | nil => rfl
  | cons c behind =>
      rw [startsIdentifier, Bool.eq_false_iff]
      intro starts
      have stops := ends c rfl
      rw [isIdentifierContinue_of_isIdentifierStart starts] at stops
      cases stops

/-- A point goes with the digits in front of it, if neither a point nor a name is behind it. -/
theorem takesApart_of_point
    {front behind : List Char}
    (dropped : front.dropWhile isDigitOrUnderscore = '.' :: behind) :
    TakesApart afterFloatDigits? front rest := by
  have member : '.' ∈ front := (List.dropWhile_suffix _).subset (dropped ▸ List.mem_cons_self)
  have droppedWhole := ends.dropWhile_digits_append front
  rw [dropped, List.cons_append] at droppedWhole
  rw [TakesApart, afterFloatDigits?_of_point dropped, afterFloatDigits?_of_point droppedWhole]
  by_cases another : behind = [] ∧ rest.head? = some '.'
  · obtain ⟨rfl, point⟩ := another
    exact .inr ⟨⟨'.', point, by decide⟩, .inr member, by simp [pointGoesOn, point]⟩
  · have same : pointGoesOn (behind ++ rest) = pointGoesOn behind := by
      cases behind with
      | nil =>
          have noPoint : rest.head? ≠ some '.' := fun point => another ⟨rfl, point⟩
          have none : startsIdentifier [] = false := rfl
          simp [pointGoesOn, noPoint, ends.startsIdentifier_eq_false, none]
      | cons d behind => rfl
    rw [same]
    cases pointGoesOn behind with
    | true => exact .inl rfl
    | false =>
        rcases ends.afterFraction_append behind with apart | ⟨prolongs, shorter⟩
        · rw [apart]
          exact .inl rfl
        · exact .inr ⟨prolongs, .inr member, by simpa using shorter⟩

theorem takesApart_afterFloatDigits? (front : List Char) :
    TakesApart afterFloatDigits? front rest := by
  cases dropped : front.dropWhile isDigitOrUnderscore with
  | nil =>
      rw [TakesApart, afterFloatDigits?, afterFloatDigits?, ends.dropWhile_digits_append, dropped,
        List.nil_append]
      split
      · case h_1 behind =>
          refine .inr ⟨⟨'.', rfl, by decide⟩, .inl rfl, fun remaining read => ?_⟩
          split at read
          · cases read
          · cases read
            exact Nat.lt_succ_of_le (suffix_afterFraction behind).length_le
      · case h_2 c behind _ =>
          rw [show isExponentMark c = false by simpa using ends.head?_ne_exponentMark]
          exact .inl rfl
      · exact .inl rfl
  | cons c behind =>
      by_cases point : c = '.'
      · subst point
        exact ends.takesApart_of_point dropped
      · rw [TakesApart, afterFloatDigits?, afterFloatDigits?, ends.dropWhile_digits_append, dropped,
          List.cons_append]
        simp only
        cases isExponentMark c with
        | false => exact .inl rfl
        | true =>
            rcases ends.afterExponent?_append behind with apart | ⟨prolongs, none, shorter⟩
            · exact .inl apart
            · exact .inr ⟨prolongs, .inl none, shorter⟩

/-- So a float does not depend on what is behind its word, but for a point or a sign. -/
theorem takesApart_afterFloat? (front : List Char) : TakesApart afterFloat? front rest := by
  rw [TakesApart, afterFloat?, afterFloat?]
  cases front with
  | nil =>
      rw [List.nil_append, ends.head?_ne_digit]
      exact .inl rfl
  | cons c front =>
      rw [List.cons_append, List.head?_cons, List.head?_cons, ← List.cons_append]
      cases (some c).any Char.isDigit with
      | false => exact .inl rfl
      | true =>
          rcases ends.takesApart_afterFloatDigits? (c :: front) with
            apart | ⟨prolongs, fails, shorter⟩
          · rw [apart]
            refine .inl ?_
            cases Token.afterFloatDigits? (c :: front) with
            | none => rfl
            | some behind => exact ends.afterNumberSuffix?_append behind
          · refine .inr ⟨prolongs, fails.imp_left fun none => ?_, fun remaining read => ?_⟩
            · rw [none]
              rfl
            · obtain ⟨behind, digits, suffix⟩ := Option.bind_eq_some_iff.mp read
              exact Nat.lt_of_le_of_lt (suffix_of_afterNumberSuffix? suffix).length_le
                (shorter behind digits)

end EndsWord

/-- What a number leaves behind begins with no character of a word. -/
theorem endsWord_of_afterNumberSuffix?
    {text rest : List Char}
    (read : afterNumberSuffix? text = some rest) :
    EndsWord rest := by
  rw [afterNumberSuffix?] at read
  split at read
  · case h_1 c behind _ =>
      split at read
      · cases read
      · case isFalse stops =>
          cases read
          exact endsWord_cons behind (Bool.eq_false_iff.mpr stops)
  · cases read
    exact endsWord_nil

/-- No point is part of an integer literal. -/
theorem point_not_mem_of_afterInteger?
    {text : List Char}
    (read : afterInteger? text = some []) :
    '.' ∉ text := by
  intro member
  obtain ⟨front, behind, rfl⟩ := List.append_of_mem member
  rw [(endsWord_cons behind (by decide : isIdentifierContinue '.' = false)).afterInteger?_append]
    at read
  obtain ⟨remaining, _, shape⟩ := Option.map_eq_some_iff.mp read
  exact List.append_ne_nil_of_right_ne_nil remaining (List.cons_ne_nil _ _) shape

theorem eq_nil_of_map_append
    {found : Option (List Char)}
    {rest : List Char}
    (read : found.map (· ++ rest) = some rest) :
    found = some [] := by
  obtain ⟨remaining, rfl, shape⟩ := Option.map_eq_some_iff.mp read
  rw [List.append_left_eq_self.mp shape]

theorem spellingBefore_append_self (front back : List Char) :
    spellingBefore (front ++ back) back = front := by
  simpa using spellingBefore_append front (Nat.le_refl back.length)

/-- A float is read from its own characters alone, and before any text that ends it. -/
theorem afterFloat?_of_append
    {front rest : List Char}
    (read : afterFloat? (front ++ rest) = some rest) :
    ∀ more, EndsNumber more → afterFloat? (front ++ more) = some more := by
  intro more ends
  obtain ⟨behind, _, suffix⟩ : ∃ behind, _ ∧ afterNumberSuffix? behind = some rest := by
    rw [afterFloat?] at read
    split at read
    · exact Option.bind_eq_some_iff.mp read
    · cases read
  have alone : afterFloat? front = some [] := by
    rcases (endsWord_of_afterNumberSuffix? suffix).takesApart_afterFloat? front with
      apart | ⟨_, _, shorter⟩
    · exact eq_nil_of_map_append (apart.symm.trans read)
    · exact absurd (shorter rest read) (Nat.lt_irrefl _)
  rcases ends.1.takesApart_afterFloat? front with apart | ⟨prolongs, _⟩
  · rw [apart, alone]
    rfl
  · exact absurd prolongs ends.2

/-- So is an integer, which does not become a float there. -/
theorem afterInteger?_of_append
    {front rest : List Char}
    (noFloat : afterFloat? (front ++ rest) = none)
    (read : afterInteger? (front ++ rest) = some rest) :
    ∀ more, EndsNumber more →
      afterFloat? (front ++ more) = none ∧ afterInteger? (front ++ more) = some more := by
  intro more ends
  obtain ⟨behind, _, suffix⟩ := Option.bind_eq_some_iff.mp read
  have wordEnds := endsWord_of_afterNumberSuffix? suffix
  have alone : afterInteger? front = some [] :=
    eq_nil_of_map_append ((wordEnds.afterInteger?_append front).symm.trans read)
  have noFloatAlone : afterFloat? front = none := by
    rcases wordEnds.takesApart_afterFloat? front with apart | ⟨_, fails, _⟩
    · exact Option.map_eq_none_iff.mp (apart.symm.trans noFloat)
    · exact fails.resolve_right (point_not_mem_of_afterInteger? alone)
  refine ⟨?_, ?_⟩
  · rcases ends.1.takesApart_afterFloat? front with apart | ⟨prolongs, _⟩
    · rw [apart, noFloatAlone]
      rfl
    · exact absurd prolongs ends.2
  · rw [ends.1.afterInteger?_append, alone]
    rfl

/-- A number literal is read from its spelling before any text that ends it. -/
theorem number?_spelling
    {text rest : List Char}
    {written : Literal}
    (read : number? text = some (written, rest)) :
    ∀ more, EndsNumber more → number? (written.spelling ++ more) = some (written, more) := by
  intro more ends
  have whole := (exists_of_number? read).1
  rw [number?] at read
  split at read
  · case h_1 floatRead =>
      cases read
      generalize spellingBefore text rest = front at whole ⊢
      subst whole
      rw [number?, afterFloat?_of_append floatRead more ends]
      simp only [spellingBefore_append_self]
  · case h_2 noFloat =>
      obtain ⟨_, integerRead, shape⟩ := Option.map_eq_some_iff.mp read
      cases shape
      generalize spellingBefore text rest = front at whole ⊢
      subst whole
      obtain ⟨stillNoFloat, again⟩ := afterInteger?_of_append noFloat integerRead more ends
      rw [number?, stillNoFloat, again]
      simp only [Option.map_some, spellingBefore_append_self]

end CheckedLiterals.Token
