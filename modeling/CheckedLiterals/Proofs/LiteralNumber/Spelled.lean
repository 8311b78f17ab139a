import CheckedLiterals.Proofs.LiteralNumber.Reading
import CheckedLiterals.Proofs.Text.Characters

namespace CheckedLiterals.LiteralNumber

/-!
# Texts that spell a decimal

A decimal with a type name behind it, or with nothing, is its own body, because it
holds neither white space nor underscores nor a letter of a type name.
-/

open Text (isWhiteSpace)

/-- The characters of decimals and of type names are no white space. -/
theorem not_blank_of_isDecimalCharacter
    {c : Char}
    (decimal : isDecimalCharacter c = true) :
    isWhiteSpace c = false := by
  simp only [isDecimalCharacter, Bool.or_eq_true, beq_iff_eq] at decimal
  rcases decimal with ((((digit | rfl) | rfl) | rfl) | rfl) | rfl
  · exact Text.not_blank_of_isDigit digit
  all_goals decide

theorem not_blank_of_mem_typeName
    {typeName : List Char}
    (isName : typeName ∈ typeNames) :
    ∀ c ∈ typeName, isWhiteSpace c = false := by
  intro c member
  have solid : typeNames.all (·.all fun c => !isWhiteSpace c) = true := by decide +kernel
  have named := List.all_eq_true.mp solid typeName isName
  simpa using List.all_eq_true.mp named c member

/-- A text without white space is what is left of it when it is trimmed. -/
theorem trims_self
    {text : List Char}
    (solid : ∀ c ∈ text, isWhiteSpace c = false) :
    Trims text text where
  around :=
    ⟨[], [], by simp, by simp, by simp⟩
  begins c first :=
    solid c (List.mem_of_mem_head? first)
  ends c last :=
    solid c (List.mem_of_mem_getLast? last)

/-- No decimal ends in the name of a type. -/
theorem not_typeName_suffix
    {text : List Char}
    (decimal : ∀ c ∈ text, isDecimalCharacter c = true) :
    ∀ typeName ∈ typeNames, ¬typeName <:+ text := by
  intro typeName isName isEnd
  have foreign : typeNames.all (·.any fun c => !isDecimalCharacter c) = true := by decide +kernel
  have named := List.all_eq_true.mp foreign typeName isName
  obtain ⟨c, member, notDecimal⟩ := List.any_eq_true.mp named
  rw [decimal c (isEnd.subset member)] at notDecimal
  cases notDecimal

/-- Characters of decimals with a type name behind them, or with nothing, are the body. -/
theorem isBody_append
    {text suffix : List Char}
    (decimal : ∀ c ∈ text, isDecimalCharacter c = true)
    (isSuffix : suffix = [] ∨ suffix ∈ typeNames) :
    IsBody (text ++ suffix) text := by
  refine ⟨text ++ suffix, text, ?_, ?_, ?_⟩
  · apply trims_self
    intro c member
    rcases List.mem_append.mp member with inText | inSuffix
    · exact not_blank_of_isDecimalCharacter (decimal c inText)
    · rcases isSuffix with rfl | isName
      · cases inSuffix
      · exact not_blank_of_mem_typeName isName c inSuffix
  · rcases isSuffix with rfl | isName
    · rw [List.append_nil]
      exact .unnamed (not_typeName_suffix decimal) rfl
    · exact .named suffix isName rfl
  · rw [eq_comm, List.filter_eq_self]
    intro c member
    have kept := decimal c member
    rw [bne_iff_ne]
    rintro rfl
    cases kept

end CheckedLiterals.LiteralNumber
