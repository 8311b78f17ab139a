import CheckedLiterals.LiteralNumber
import CheckedLiterals.Proofs.Numeral.Grammar
import CheckedLiterals.Refined.Whole
import Mathlib.Data.List.Basic

namespace CheckedLiterals.LiteralNumber

/-!
# The body of a literal

What a literal's text comes down to: the white space around it does not count, nor
does one type name at its end, nor do underscores.  No text ends in two of the
names, so every text has exactly one body, and it is the one that the reader of
literals computes.
-/

open Text (isWhiteSpace trim trimEnd)

/-- Whether a text is another one without the white space at its two ends. -/
structure Trims (text core : List Char) : Prop where
  around :
    ∃ left right,
      text = left ++ (core ++ right) ∧
        (∀ c ∈ left, isWhiteSpace c = true) ∧
        ∀ c ∈ right, isWhiteSpace c = true
  begins : ∀ c ∈ core.head?, isWhiteSpace c = false
  ends : ∀ c ∈ core.getLast?, isWhiteSpace c = false

/-- The names of the number types. -/
def typeNames : List (List Char) :=
  WholeType.all.map (fun type => type.name.toList) ++ ["f32".toList, "f64".toList]

/-- Whether a text is another one without the type name that it ends in, if it ends in one. -/
inductive DropsTypeName (core stem : List Char) : Prop where
  | named
      (typeName : List Char) :
      typeName ∈ typeNames →
        core = stem ++ typeName →
        DropsTypeName core stem
  | unnamed :
      (∀ typeName ∈ typeNames, ¬typeName <:+ core) →
        stem = core →
        DropsTypeName core stem

/-- Whether a text is the body of another one: trimmed, without a type name and underscores. -/
def IsBody (text body : List Char) : Prop :=
  ∃ core stem, Trims text core ∧ DropsTypeName core stem ∧ body = stem.filter (· != '_')

/-- White space at the end of a text is taken off. -/
theorem trimEnd_append
    {core right : List Char}
    (ends : ∀ c ∈ core.getLast?, isWhiteSpace c = false)
    (blank : ∀ c ∈ right, isWhiteSpace c = true) :
    trimEnd (core ++ right) = core := by
  rw [trimEnd, List.reverse_append, List.dropWhile_append_of_pos (by simpa using blank)]
  rw [← List.head?_reverse] at ends
  generalize shape : core.reverse = back at *
  rw [← List.reverse_reverse core, shape]
  cases back with
  | nil => rfl
  | cons c rest => rw [List.dropWhile_cons_of_neg (by simp [ends c rfl])]

/-- The first character that is left of a text is no white space. -/
theorem head?_dropWhile (text : List Char) :
    ∀ c ∈ (text.dropWhile isWhiteSpace).head?, isWhiteSpace c = false := by
  intro c first
  have notBlank := List.head?_dropWhile_not isWhiteSpace text
  rw [first] at notBlank
  exact notBlank

/-- The trimmed text is the text without the white space around it. -/
theorem trims_iff {text core : List Char} : Trims text core ↔ core = trim text := by
  constructor
  · rintro ⟨⟨left, right, rfl, leftBlank, rightBlank⟩, begins, ends⟩
    rw [trim, List.dropWhile_append_of_pos leftBlank]
    cases core with
    | nil =>
        rw [List.nil_append, ← List.append_nil right, List.dropWhile_append_of_pos rightBlank]
        rfl
    | cons c rest =>
        rw [List.cons_append, List.dropWhile_cons_of_neg (by simp [begins c rfl]),
          ← List.cons_append]
        exact (trimEnd_append ends rightBlank).symm
  · rintro rfl
    have parts := List.takeWhile_append_dropWhile (p := isWhiteSpace) (l := text)
    have noneLeft := head?_dropWhile text
    have blank : ∀ text : List Char, ∀ c ∈ text.takeWhile isWhiteSpace, isWhiteSpace c = true :=
      fun text c member => List.all_eq_true.mp List.all_takeWhile c member
    have leftBlank := blank text
    rw [trim]
    generalize text.dropWhile isWhiteSpace = inner at *
    have rightParts := List.takeWhile_append_dropWhile (p := isWhiteSpace) (l := inner.reverse)
    have innerShape : trimEnd inner ++ (inner.reverse.takeWhile isWhiteSpace).reverse = inner := by
      rw [trimEnd, ← List.reverse_append, rightParts, List.reverse_reverse]
    refine ⟨⟨_, (inner.reverse.takeWhile isWhiteSpace).reverse, ?_, leftBlank, ?_⟩, ?_, ?_⟩
    · rw [innerShape, parts]
    · simpa using blank inner.reverse
    · intro c first
      apply noneLeft
      rw [← innerShape, List.head?_append, first]
      rfl
    · intro c last
      rw [trimEnd, List.getLast?_reverse] at last
      exact head?_dropWhile _ c last

/-- A suffix is split off a text if the text ends in it. -/
theorem beforeSuffix?_eq_some_iff {suffix core stem : List Char} :
    beforeSuffix? suffix core = some stem ↔ core = stem ++ suffix := by
  simp only [beforeSuffix?, List.isSuffixOf_iff_suffix]
  constructor
  · intro found
    split at found
    · case isTrue isSuffix =>
        obtain ⟨before, rfl⟩ := isSuffix
        simp at found
        rw [found]
    · cases found
  · rintro rfl
    simp

/-- The suffixes are the names of the number types. -/
theorem mem_suffixes_iff {text : List Char} : text ∈ suffixes ↔ text ∈ typeNames := by
  constructor
  · exact (show ∀ suffix ∈ suffixes, suffix ∈ typeNames by decide) text
  · exact (show ∀ typeName ∈ typeNames, typeName ∈ suffixes by decide) text

/-- No name of a number type ends in another one. -/
theorem eq_of_suffixes
    {suffix other core : List Char}
    (isSuffix : suffix ∈ suffixes)
    (isOther : other ∈ suffixes)
    (ends : suffix <:+ core)
    (otherEnds : other <:+ core) :
    suffix = other := by
  have apart : ∀ short ∈ suffixes, ∀ long ∈ suffixes, short <:+ long → short = long := by
    decide
  rcases List.suffix_or_suffix_of_suffix ends otherEnds with inside | outside
  · exact apart _ isSuffix _ isOther inside
  · exact (apart _ isOther _ isSuffix outside).symm

/-- The text without suffix is the text without the type name that it ends in. -/
theorem dropsTypeName_iff {core stem : List Char} :
    DropsTypeName core stem ↔ stem = withoutSuffix core := by
  have found : ∀ suffix ∈ suffixes, ∀ before, core = before ++ suffix →
      withoutSuffix core = before := by
    intro suffix isSuffix before shape
    rw [withoutSuffix]
    cases first : suffixes.findSome? (beforeSuffix? · core) with
    | none =>
        rw [List.findSome?_eq_none_iff] at first
        have := first suffix isSuffix
        rw [beforeSuffix?_eq_some_iff.mpr shape] at this
        cases this
    | some other =>
        obtain ⟨chosen, isChosen, split⟩ := List.exists_of_findSome?_eq_some first
        have otherShape := beforeSuffix?_eq_some_iff.mp split
        have same := eq_of_suffixes isSuffix isChosen ⟨before, shape.symm⟩ ⟨other, otherShape.symm⟩
        subst same
        exact (List.append_cancel_right (shape.symm.trans otherShape)).symm
  have absent : (∀ suffix ∈ suffixes, ¬suffix <:+ core) → withoutSuffix core = core := by
    intro none
    rw [withoutSuffix, List.findSome?_eq_none_iff.mpr]
    · rfl
    · intro suffix isSuffix
      simp [beforeSuffix?, none suffix isSuffix]
  constructor
  · rintro (⟨typeName, isName, shape⟩ | ⟨none, rfl⟩)
    · exact (found typeName (mem_suffixes_iff.mpr isName) stem shape).symm
    · exact (absent fun suffix isSuffix => none suffix (mem_suffixes_iff.mp isSuffix)).symm
  · rintro rfl
    by_cases ends : ∃ suffix ∈ suffixes, suffix <:+ core
    · obtain ⟨suffix, isSuffix, before, shape⟩ := ends
      rw [found suffix isSuffix before shape.symm]
      exact .named suffix (mem_suffixes_iff.mp isSuffix) shape.symm
    · have none : ∀ suffix ∈ suffixes, ¬suffix <:+ core := fun suffix isSuffix isEnd =>
        ends ⟨suffix, isSuffix, isEnd⟩
      exact .unnamed (fun typeName isName => none typeName (mem_suffixes_iff.mpr isName))
        (absent none)

/-- A text has one body, the one that is computed. -/
theorem isBody_iff {text text' : List Char} : IsBody text text' ↔ text' = body text := by
  constructor
  · rintro ⟨core, stem, trims, drops, rfl⟩
    rw [body, dropsTypeName_iff.mp drops, trims_iff.mp trims]
  · rintro rfl
    exact ⟨_, _, trims_iff.mpr rfl, dropsTypeName_iff.mpr rfl, rfl⟩

end CheckedLiterals.LiteralNumber
