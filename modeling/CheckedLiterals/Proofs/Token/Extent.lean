import CheckedLiterals.Token.Lexer

namespace CheckedLiterals.Token

/-!
# How far a literal reaches

A reader of names and numbers takes a piece off the front of a text.  What is left is a
suffix of the text, and what is taken of a number begins with a digit.
-/

open Text (isIdentifierStart)

theorem spellingBefore_append
    (front : List Char)
    {back rest : List Char}
    (shorter : rest.length ≤ back.length) :
    spellingBefore (front ++ back) rest = front ++ back.take (back.length - rest.length) := by
  rw [spellingBefore, List.length_append, Nat.add_sub_assoc shorter, List.take_length_add_append]

theorem length_dropWhile_le
    (test : Char → Bool)
    (text : List Char) :
    (text.dropWhile test).length ≤ text.length :=
  (List.dropWhile_sublist test).length_le

theorem exists_of_afterIdentifier?
    {text rest : List Char}
    (read : afterIdentifier? text = some rest) :
    ∃ c back, text = c :: back ∧ isIdentifierStart c = true ∧ rest.length ≤ back.length := by
  cases text with
  | nil => cases read
  | cons c back =>
      rw [afterIdentifier?] at read
      split at read
      · case isTrue starts =>
          cases read
          exact ⟨c, back, rfl, starts, length_dropWhile_le _ back⟩
      · cases read

theorem suffix_afterSuffix (text : List Char) : afterSuffix text <:+ text := by
  unfold afterSuffix afterIdentifier?
  split
  · split
    · exact (List.dropWhile_suffix _).trans (List.suffix_cons _ _)
    · exact List.suffix_refl _
  · exact List.suffix_refl _

theorem suffix_of_afterNumberSuffix?
    {text rest : List Char}
    (read : afterNumberSuffix? text = some rest) :
    rest <:+ text := by
  have behind := suffix_afterSuffix text
  rw [afterNumberSuffix?] at read
  split at read
  · case h_1 shape =>
      split at read
      · cases read
      · cases read
        rwa [shape] at behind
  · cases read
    exact List.nil_suffix

/-- The text behind a sign, if it begins with one. -/
def unsigned : List Char → List Char
  | '+' :: rest => rest
  | '-' :: rest => rest
  | rest => rest

/-- The text behind the digits of an exponent, of which there has to be one. -/
def afterExponentDigits? (text : List Char) : Option (List Char) :=
  match text.dropWhile (· == '_') with
  | c :: rest => if c.isDigit then some (rest.dropWhile isDigitOrUnderscore) else none
  | [] => none

theorem afterExponent?_eq (text : List Char) :
    afterExponent? text = afterExponentDigits? (unsigned (text.dropWhile (· == '_'))) :=
  rfl

theorem suffix_unsigned (text : List Char) : unsigned text <:+ text := by
  unfold unsigned
  split
  · exact List.suffix_cons _ _
  · exact List.suffix_cons _ _
  · exact List.suffix_refl _

theorem suffix_of_afterExponentDigits?
    {text rest : List Char}
    (read : afterExponentDigits? text = some rest) :
    rest <:+ text := by
  have behind := List.dropWhile_suffix (· == '_') (l := text)
  rw [afterExponentDigits?] at read
  split at read
  · case h_1 shape =>
      rw [shape] at behind
      split at read
      · cases read
        exact (List.dropWhile_suffix _).trans ((List.suffix_cons _ _).trans behind)
      · cases read
  · cases read

theorem suffix_of_afterExponent?
    {text rest : List Char}
    (read : afterExponent? text = some rest) :
    rest <:+ text :=
  (suffix_of_afterExponentDigits? read).trans
    ((suffix_unsigned _).trans (List.dropWhile_suffix _))

theorem suffix_afterFraction (text : List Char) : afterFraction text <:+ text := by
  have behind := List.dropWhile_suffix isDigitOrUnderscore (l := text)
  rw [afterFraction]
  split
  · case h_1 c rest shape =>
      rw [shape] at behind
      split
      · cases read : afterExponent? rest with
        | none => exact behind
        | some remaining =>
            exact (suffix_of_afterExponent? read).trans ((List.suffix_cons _ _).trans behind)
      · exact behind
  · exact List.nil_suffix

/-- The digits in a base are those in front of the first character that could not be one. -/
theorem eq_dropWhile_of_afterDigits?
    {base : Nat}
    {text rest : List Char}
    (read : afterDigits? base text = some rest) :
    rest = text.dropWhile (isDigitPart base) := by
  rw [afterDigits?] at read
  split at read
  · cases read
  · exact (Option.some.inj read).symm

/-- Behind a zero and the mark of a base, digits take nothing back. -/
theorem exists_of_basedDigits
    {base : Nat}
    {mark : Char}
    {behind rest : List Char}
    (read : afterDigits? base behind = some rest) :
    ∃ c back, '0' :: mark :: behind = c :: back ∧ c.isDigit = true ∧ rest <:+ back := by
  refine ⟨'0', mark :: behind, rfl, by decide, ?_⟩
  rw [eq_dropWhile_of_afterDigits? read]
  exact (List.dropWhile_suffix _).trans (List.suffix_cons _ _)

/-- An integer literal begins with a digit, and takes it. -/
theorem exists_of_afterIntegerDigits?
    {text rest : List Char}
    (read : afterIntegerDigits? text = some rest) :
    ∃ c back, text = c :: back ∧ c.isDigit = true ∧ rest <:+ back := by
  unfold afterIntegerDigits? at read
  split at read
  · exact exists_of_basedDigits read
  · exact exists_of_basedDigits read
  · exact exists_of_basedDigits read
  · split at read
    · case isTrue starts =>
        cases text with
        | nil => cases starts
        | cons c back =>
            have digit : c.isDigit = true := by simpa using starts
            refine ⟨c, back, rfl, digit, ?_⟩
            rw [eq_dropWhile_of_afterDigits? read, List.dropWhile_cons_of_pos (by
              simp [isDigitPart, isDigitOrUnderscore, digit])]
            exact List.dropWhile_suffix _
    · cases read

/-- A floating-point literal begins with a digit, and takes it. -/
theorem exists_of_afterFloat?
    {text rest : List Char}
    (read : afterFloat? text = some rest) :
    ∃ c back, text = c :: back ∧ c.isDigit = true ∧ rest <:+ back := by
  rw [afterFloat?] at read
  split at read
  · case isTrue starts =>
      obtain ⟨behind, digits, suffix⟩ := Option.bind_eq_some_iff.mp read
      cases text with
      | nil => cases starts
      | cons c back =>
          have digit : c.isDigit = true := by simpa using starts
          have taken : (c :: back).dropWhile isDigitOrUnderscore =
              back.dropWhile isDigitOrUnderscore :=
            List.dropWhile_cons_of_pos (by simp [isDigitOrUnderscore, digit])
          have dropped := List.dropWhile_suffix isDigitOrUnderscore (l := back)
          refine ⟨c, back, rfl, digit, (suffix_of_afterNumberSuffix? suffix).trans ?_⟩
          rw [afterFloatDigits?, taken] at digits
          split at digits
          · case h_1 shape =>
              rw [shape] at dropped
              split at digits
              · cases digits
              · cases digits
                exact (suffix_afterFraction _).trans ((List.suffix_cons _ _).trans dropped)
          · case h_2 shape =>
              rw [shape] at dropped
              split at digits
              · exact (suffix_of_afterExponent? digits).trans
                  ((List.suffix_cons _ _).trans dropped)
              · cases digits
          · cases digits
  · cases read

theorem exists_of_afterInteger?
    {text rest : List Char}
    (read : afterInteger? text = some rest) :
    ∃ c back, text = c :: back ∧ c.isDigit = true ∧ rest <:+ back := by
  obtain ⟨behind, digits, suffix⟩ := Option.bind_eq_some_iff.mp read
  obtain ⟨c, back, rfl, digit, taken⟩ := exists_of_afterIntegerDigits? digits
  exact ⟨c, back, rfl, digit, (suffix_of_afterNumberSuffix? suffix).trans taken⟩

/-- A number literal takes its spelling, which begins with a digit, off the text. -/
theorem exists_of_number?
    {text rest : List Char}
    {written : Literal}
    (read : number? text = some (written, rest)) :
    text = written.spelling ++ rest ∧ ∃ c back, written.spelling = c :: back ∧ c.isDigit = true := by
  have spelled : ∀ {c : Char} {back : List Char},
      rest <:+ back → ∃ front, c :: back = c :: front ++ rest ∧
        spellingBefore (c :: back) rest = c :: front := by
    rintro c _ ⟨front, rfl⟩
    refine ⟨front, by simp, ?_⟩
    rw [← List.cons_append, spellingBefore_append _ (Nat.le_refl _)]
    simp
  rw [number?] at read
  split at read
  · case h_1 floatRead =>
      cases read
      obtain ⟨c, back, rfl, digit, taken⟩ := exists_of_afterFloat? floatRead
      obtain ⟨front, whole, spelling⟩ := spelled taken
      exact ⟨by rw [spelling, ← whole], c, front, spelling, digit⟩
  · obtain ⟨behind, integerRead, shape⟩ := Option.map_eq_some_iff.mp read
    cases shape
    obtain ⟨c, back, rfl, digit, taken⟩ := exists_of_afterInteger? integerRead
    obtain ⟨front, whole, spelling⟩ := spelled taken
    exact ⟨by rw [spelling, ← whole], c, front, spelling, digit⟩

end CheckedLiterals.Token
