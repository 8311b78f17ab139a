import CheckedLiterals.Proofs.LiteralNumber.Reading
import CheckedLiterals.Proofs.Text.Characters
import Mathlib.Data.List.Count

namespace CheckedLiterals.LiteralNumber

/-!
# Texts that are no numbers

Taking off white space, a type name and underscores can make a number of a text that
looks like none.  It cannot do so if a character remains that is part of no decimal,
if white space remains between two characters, if two points remain, or if the text
begins like a word.  All of this is kept when a minus is put in front of the text.
-/

open Numeral (SpellsDecimal SpellsMantissa SpellsExponent SpellsInteger AllDigits StartsNumber)
open Text (isWhiteSpace)

/-- Whether a character is neither part of a decimal nor ever taken off a literal. -/
def isForeign (c : Char) : Bool :=
  !isDecimalCharacter c && c != '_' && !isWhiteSpace c && !typeNames.any (·.contains c)

/-- Whether a character can begin a word, but neither a number nor an underscored word. -/
def isWordStart (c : Char) : Bool :=
  !c.isDigit && c != '.' && c != '_' && c != '+' && c != '-' && !isWhiteSpace c

/-- Texts that begin with a word, behind any number of minus signs and any white space. -/
inductive StartsWord : List Char → Prop where
  | word
      {c : Char}
      (rest : List Char) :
      isWordStart c = true →
        StartsWord (c :: rest)
  | minus
      {text : List Char} :
      StartsWord text →
        StartsWord ('-' :: text)
  | blank
      {c : Char}
      {text : List Char} :
      isWhiteSpace c = true →
        StartsWord text →
        StartsWord (c :: text)

/-- Texts that are no number, whatever is taken off them. -/
inductive Unreadable (text : List Char) : Prop where
  | foreign
      {c : Char} :
      c ∈ text →
        isForeign c = true →
        Unreadable text
  | parted
      {left blank right : Char} :
      [left, blank, right].Sublist text →
        isWhiteSpace blank = true →
        isWhiteSpace left = false →
        isWhiteSpace right = false →
        Unreadable text
  | points :
      2 ≤ text.count '.' →
        Unreadable text
  | word :
      StartsWord text →
        Unreadable text

/-- An unreadable text stays so behind a minus. -/
theorem Unreadable.minus
    {text : List Char}
    (unreadable : Unreadable text) :
    Unreadable ('-' :: text) := by
  cases unreadable with
  | foreign member isForeign => exact .foreign (List.mem_cons_of_mem _ member) isForeign
  | parted sublist blank left right => exact .parted (sublist.cons _) blank left right
  | points two => exact .points (two.trans List.count_le_count_cons)
  | word starts => exact .word starts.minus

/-- A text is its body's stem with white space around it and a type name behind it, if any. -/
theorem exists_stem (text : List Char) :
    ∃ left stem name right,
      text = left ++ ((stem ++ name) ++ right) ∧
        (∀ c ∈ left, isWhiteSpace c = true) ∧
        (∀ c ∈ right, isWhiteSpace c = true) ∧
        (name = [] ∨ name ∈ typeNames) ∧
        body text = stem.filter (· != '_') := by
  have isBody : IsBody text (body text) := isBody_iff.mpr rfl
  obtain ⟨core, stem, trims, drops, shape⟩ := isBody
  obtain ⟨left, right, parts, leftBlank, rightBlank⟩ := trims.around
  cases drops with
  | named name isName coreShape =>
      exact ⟨left, stem, name, right, by rw [parts, coreShape], leftBlank, rightBlank,
        .inr isName, shape⟩
  | unnamed _ stemShape =>
      exact ⟨left, stem, [], right, by rw [parts, stemShape, List.append_nil], leftBlank,
        rightBlank, .inl rfl, shape⟩

/-- A character that no type name holds stays when the name is taken off. -/
theorem not_mem_name
    {c : Char}
    {name : List Char}
    (isName : name = [] ∨ name ∈ typeNames)
    (inNone : typeNames.any (·.contains c) = false) :
    c ∉ name := by
  rcases isName with rfl | isName
  · simp
  · intro member
    rw [List.any_eq_false] at inNone
    exact inNone name isName (by simpa using member)

theorem mem_body_of_isForeign
    {text : List Char}
    {c : Char}
    (member : c ∈ text)
    (foreign : isForeign c = true) :
    c ∈ body text := by
  obtain ⟨left, stem, name, right, parts, leftBlank, rightBlank, isName, shape⟩ := exists_stem text
  simp only [isForeign, Bool.and_eq_true, Bool.not_eq_true', bne_iff_ne] at foreign
  obtain ⟨⟨⟨_, noUnderscore⟩, notBlank⟩, inNone⟩ := foreign
  have notLeft : c ∉ left := fun inLeft => by simp [leftBlank c inLeft] at notBlank
  have notRight : c ∉ right := fun inRight => by simp [rightBlank c inRight] at notBlank
  have notName := not_mem_name isName inNone
  rw [shape, List.mem_filter]
  rw [parts] at member
  simp only [List.mem_append, notLeft, notRight, notName, false_or, or_false] at member
  exact ⟨member, by simpa using noUnderscore⟩

/-- White space at one end of a text has no part in a sublist that begins and ends elsewhere. -/
theorem blank_mem_of_parted
    {left core right : List Char}
    {first blank last : Char}
    (parted : [first, blank, last].Sublist (left ++ (core ++ right)))
    (leftBlank : ∀ c ∈ left, isWhiteSpace c = true)
    (rightBlank : ∀ c ∈ right, isWhiteSpace c = true)
    (firstSolid : isWhiteSpace first = false)
    (lastSolid : isWhiteSpace last = false) :
    blank ∈ core := by
  obtain ⟨inLeft, behindLeft, split, leftSub, behindSub⟩ := List.sublist_append_iff.mp parted
  have noneLeft : inLeft = [] := by
    cases inLeft with
    | nil => rfl
    | cons c others =>
        obtain ⟨rfl, _⟩ := List.cons.inj split
        simp [leftBlank first (leftSub.subset (by simp))] at firstSolid
  rw [noneLeft, List.nil_append] at split
  subst split
  obtain ⟨inCore, inRight, split, coreSub, rightSub⟩ := List.sublist_append_iff.mp behindSub
  have noneRight : inRight = [] := by
    rcases List.eq_nil_or_concat inRight with empty | ⟨others, c, concat⟩
    · exact empty
    · have lasts := congrArg List.getLast? split
      rw [concat, List.concat_eq_append, ← List.append_assoc, List.getLast?_concat] at lasts
      obtain rfl : last = c := by simpa using lasts
      simp [rightBlank last (rightSub.subset (by simp [concat]))] at lastSolid
  rw [noneRight, List.append_nil] at split
  subst split
  exact coreSub.subset (by simp)

/-- White space is no part of a decimal, and type names have none. -/
theorem not_isDecimalCharacter_of_isWhiteSpace
    {c : Char}
    (blank : isWhiteSpace c = true) :
    isDecimalCharacter c = false := by
  have apart : ∀ d : Char, isWhiteSpace d = false → (c == d) = false := by
    intro d solid
    rw [beq_eq_false_iff_ne]
    rintro rfl
    rw [blank] at solid
    cases solid
  have notDigit : c.isDigit = false := by
    rw [Bool.eq_false_iff]
    intro digit
    rw [Text.not_blank_of_isDigit digit] at blank
    cases blank
  simp only [isDecimalCharacter, notDigit, apart '.' (by decide), apart 'e' (by decide),
    apart 'E' (by decide), apart '+' (by decide), apart '-' (by decide), Bool.or_self]

theorem solid_of_mem_typeNames
    {name : List Char}
    (isName : name ∈ typeNames)
    {c : Char}
    (member : c ∈ name) :
    isWhiteSpace c = false := by
  have solid : ∀ name ∈ typeNames, name.all (!isWhiteSpace ·) = true := by decide
  simpa using List.all_eq_true.mp (solid name isName) c member

theorem blank_mem_body_of_parted
    {text : List Char}
    {first blank last : Char}
    (parted : [first, blank, last].Sublist text)
    (isBlank : isWhiteSpace blank = true)
    (firstSolid : isWhiteSpace first = false)
    (lastSolid : isWhiteSpace last = false) :
    blank ∈ body text := by
  obtain ⟨left, stem, name, right, parts, leftBlank, rightBlank, isName, shape⟩ := exists_stem text
  rw [parts] at parted
  have inCore := blank_mem_of_parted parted leftBlank rightBlank firstSolid lastSolid
  have notName : blank ∉ name := by
    intro member
    rcases isName with rfl | isName
    · cases member
    · rw [solid_of_mem_typeNames isName member] at isBlank
      cases isBlank
  have noUnderscore : blank ≠ '_' := by
    rintro rfl
    cases isBlank
  rw [shape, List.mem_filter]
  exact ⟨by simpa [notName] using inCore, by simpa using noUnderscore⟩

theorem count_body (text : List Char) : (body text).count '.' = text.count '.' := by
  obtain ⟨left, stem, name, right, parts, leftBlank, rightBlank, isName, shape⟩ := exists_stem text
  have noneBlank : ∀ blanks : List Char, (∀ c ∈ blanks, isWhiteSpace c = true) →
      blanks.count '.' = 0 := by
    intro blanks blank
    rw [List.count_eq_zero]
    intro member
    exact absurd (blank _ member) (by decide)
  have noneName := List.count_eq_zero.mpr
    (not_mem_name isName (show typeNames.any (·.contains '.') = false by decide))
  rw [shape, List.count_filter (by decide), parts]
  simp only [List.count_append, noneBlank left leftBlank, noneBlank right rightBlank, noneName,
    Nat.zero_add, Nat.add_zero]

theorem count_of_allDigits
    {digits : List Char}
    (allDigits : AllDigits digits) :
    digits.count '.' = 0 := by
  rw [List.count_eq_zero]
  intro member
  exact absurd (allDigits _ member) (by decide)

theorem count_of_spellsInteger
    {text : List Char}
    {value : Int}
    (spelled : SpellsInteger text value) :
    text.count '.' = 0 := by
  cases spelled with
  | digits isSign allDigits _ =>
      rw [List.count_append, count_of_allDigits allDigits]
      cases isSign <;> decide

/-- A decimal has at most one point. -/
theorem count_le_one_of_spellsDecimal
    {text : List Char}
    {negative : Bool}
    {magnitude : ℚ}
    (spelled : SpellsDecimal text negative magnitude) :
    text.count '.' ≤ 1 := by
  cases spelled with
  | @parts sign mantissa whole fraction tail _ _ isSign mantissaSpelled exponentSpelled =>
      have signCount : sign.count '.' = 0 := by cases isSign <;> decide
      have tailCount : tail.count '.' = 0 := by
        cases exponentSpelled with
        | absent => rfl
        | marked isMark integerSpelled =>
            rw [List.count_cons, count_of_spellsInteger integerSpelled]
            rcases isMark with rfl | rfl <;> decide
      have mantissaCount : mantissa.count '.' ≤ 1 := by
        cases mantissaSpelled with
        | noPoint allDigits _ => simp [count_of_allDigits allDigits]
        | digitsThenPoint allWhole _ allFraction =>
            simp [count_of_allDigits allWhole, count_of_allDigits allFraction]
        | pointThenDigits allFraction _ => simp [count_of_allDigits allFraction]
      rw [List.count_append, List.count_append, signCount, tailCount]
      omega

/--
What is left of a text that begins with a word is minus signs and white space, before the word or
all of it.
-/
theorem StartsWord.filter_take
    {text : List Char}
    (starts : StartsWord text) :
    ∀ {stem : List Char}, stem <+: text →
      (∀ c ∈ stem, c = '-' ∨ isWhiteSpace c = true) ∨ StartsWord (stem.filter (· != '_')) := by
  induction starts with
  | @word c rest isStart =>
      intro stem begins
      cases stem with
      | nil => exact .inl (by simp)
      | cons d others =>
          obtain rfl := (List.cons_prefix_cons.mp begins).1
          have kept : (d != '_') = true := by
            simp only [isWordStart, Bool.and_eq_true] at isStart
            exact isStart.1.1.1.2
          rw [List.filter_cons, if_pos kept]
          exact .inr (.word _ isStart)
  | @minus text _ kept =>
      intro stem begins
      cases stem with
      | nil => exact .inl (by simp)
      | cons d others =>
          obtain ⟨rfl, others⟩ := List.cons_prefix_cons.mp begins
          rcases kept others with minuses | word
          · exact .inl (by simpa using minuses)
          · rw [List.filter_cons, if_pos (by decide)]
            exact .inr word.minus
  | @blank c text isBlank _ kept =>
      intro stem begins
      cases stem with
      | nil => exact .inl (by simp)
      | cons d others =>
          obtain ⟨rfl, others⟩ := List.cons_prefix_cons.mp begins
          rcases kept others with minuses | word
          · exact .inl (List.forall_mem_cons.mpr ⟨.inr isBlank, minuses⟩)
          · have noUnderscore : d ≠ '_' := by
              rintro rfl
              cases isBlank
            rw [List.filter_cons, if_pos (by simpa using noUnderscore)]
            exact .inr (word.blank isBlank)

/-- White space in front of a text that begins with a word is none of the word. -/
theorem StartsWord.of_append
    {blanks text : List Char}
    (starts : StartsWord (blanks ++ text))
    (areBlank : ∀ c ∈ blanks, isWhiteSpace c = true) :
    StartsWord text := by
  induction blanks with
  | nil => exact starts
  | cons c rest later =>
      obtain ⟨isBlank, others⟩ := List.forall_mem_cons.mp areBlank
      refine later ?_ others
      cases starts with
      | word _ isStart =>
          simp only [isWordStart, isBlank, Bool.not_true, Bool.and_false] at isStart
          cases isStart
      | minus => cases isBlank
      | blank _ inner => exact inner

/-- A decimal begins with a number behind its sign. -/
theorem startsNumber_of_spellsDecimal
    {text : List Char}
    {negative : Bool}
    {magnitude : ℚ}
    (spelled : SpellsDecimal text negative magnitude) :
    ∃ sign unsigned, text = sign ++ unsigned ∧
      (sign = [] ∨ sign = ['+'] ∨ sign = ['-']) ∧ StartsNumber unsigned := by
  cases spelled with
  | parts isSign mantissaSpelled exponentSpelled =>
      refine ⟨_, _, rfl, ?_, (mantissaSpelled.split_append exponentSpelled).1⟩
      cases isSign <;> simp

theorem not_startsNumber_of_isWhiteSpace
    {c : Char}
    (blank : isWhiteSpace c = true)
    (text : List Char) :
    ¬StartsNumber (c :: text) := by
  have notDecimal := not_isDecimalCharacter_of_isWhiteSpace blank
  simp only [isDecimalCharacter, Bool.or_eq_false_iff, beq_eq_false_iff_ne] at notDecimal
  simp [StartsNumber, notDecimal]

theorem StartsWord.not_startsNumber
    {text : List Char}
    (starts : StartsWord text) :
    ¬StartsNumber text := by
  cases starts with
  | word _ isStart =>
      simp only [isWordStart, Bool.and_eq_true, Bool.not_eq_true', bne_iff_ne] at isStart
      simp [StartsNumber, isStart]
  | minus => simp [StartsNumber]
  | blank isBlank => exact not_startsNumber_of_isWhiteSpace isBlank _

theorem StartsWord.not_spellsDecimal
    {text : List Char}
    {negative : Bool}
    {magnitude : ℚ}
    (starts : StartsWord text) :
    ¬SpellsDecimal text negative magnitude := by
  intro spelled
  obtain ⟨sign, unsigned, rfl, rfl | rfl | rfl, number⟩ := startsNumber_of_spellsDecimal spelled
  · exact starts.not_startsNumber number
  · cases starts with
    | word _ isStart => exact absurd isStart (by decide)
    | blank isBlank => cases isBlank
  · cases starts with
    | word _ isStart => exact absurd isStart (by decide)
    | minus inner => exact inner.not_startsNumber number
    | blank isBlank => cases isBlank

theorem not_spellsDecimal_of_minuses
    {text : List Char}
    {negative : Bool}
    {magnitude : ℚ}
    (minuses : ∀ c ∈ text, c = '-' ∨ isWhiteSpace c = true) :
    ¬SpellsDecimal text negative magnitude := by
  intro spelled
  obtain ⟨sign, unsigned, rfl, _, number⟩ := startsNumber_of_spellsDecimal spelled
  cases unsigned with
  | nil => exact number
  | cons c rest =>
      rcases minuses c (by simp) with rfl | blank
      · simp [StartsNumber] at number
      · exact not_startsNumber_of_isWhiteSpace blank rest number

/-- What begins with a word spells no decimal even when a type name and underscores are gone. -/
theorem StartsWord.not_spellsDecimal_body
    {text : List Char}
    {negative : Bool}
    {magnitude : ℚ}
    (starts : StartsWord text) :
    ¬SpellsDecimal (body text) negative magnitude := by
  obtain ⟨left, stem, name, right, parts, leftBlank, _, _, shape⟩ := exists_stem text
  rw [parts] at starts
  have begins : stem <+: (stem ++ name) ++ right := by
    rw [List.append_assoc]
    exact List.prefix_append ..
  rw [shape]
  rcases (starts.of_append leftBlank).filter_take begins with minuses | word
  · exact not_spellsDecimal_of_minuses fun c member => minuses c (List.mem_of_mem_filter member)
  · exact word.not_spellsDecimal

/-- No literal with an unreadable text is a number. -/
theorem Unreadable.parse?_eq_none
    {text : String}
    (unreadable : Unreadable text.toList) :
    parse? text = none := by
  rw [parse?_eq_ofBody?]
  cases read : ofBody? (body text.toList) with
  | none => rfl
  | some number =>
      exfalso
      obtain ⟨negative, magnitude, spelled⟩ := exists_spellsDecimal read
      cases unreadable with
      | @foreign c member foreign =>
          have decimal := isDecimalCharacter_of_spellsDecimal spelled c
            (mem_body_of_isForeign member foreign)
          simp [isForeign, decimal] at foreign
      | @parted _ c _ sublist blank leftSolid rightSolid =>
          have decimal := isDecimalCharacter_of_spellsDecimal spelled c
            (blank_mem_body_of_parted sublist blank leftSolid rightSolid)
          rw [not_isDecimalCharacter_of_isWhiteSpace blank] at decimal
          cases decimal
      | points two =>
          have atMostOne := count_le_one_of_spellsDecimal spelled
          rw [count_body] at atMostOne
          omega
      | word starts => exact starts.not_spellsDecimal_body spelled

end CheckedLiterals.LiteralNumber
