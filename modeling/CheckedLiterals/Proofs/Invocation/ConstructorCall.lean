import CheckedLiterals.Proofs.Invocation.Laws

namespace CheckedLiterals

/-!
# The constructor call around a literal

The emitted code is put together as text and cut into tokens again.  Around a literal that is
cut as what it is spelled, with minus signs in front or not, the text is cut where it was put
together: the tokens are those of the constructor call, with the literal as its argument.  Any
front end that cuts calls at sight does so.
-/

namespace Token

mutual

/-- The lexemes of a tree, a group with its delimiters. -/
def lexemesOf : TokenTree → List Lexeme
  | .name text => [.tree (.name text)]
  | .mark symbol spacing => [.tree (.mark symbol spacing)]
  | .literal written => [.tree (.literal written)]
  | .group delimiter content =>
      .opening delimiter :: (lexemesOfList content ++ [.closing delimiter])

/-- The lexemes of trees in a row. -/
def lexemesOfList : List TokenTree → List Lexeme
  | [] => []
  | tree :: rest => lexemesOf tree ++ lexemesOfList rest

end

theorem lexemesOfList_append (front back : Trees) :
    lexemesOfList (front ++ back) = lexemesOfList front ++ lexemesOfList back := by
  induction front with
  | nil => rfl
  | cons tree rest joined =>
      rw [List.cons_append, lexemesOfList, joined, lexemesOfList, List.append_assoc]

mutual

/-- Matching the delimiters of a tree's lexemes gives the tree back. -/
theorem nestWithin_lexemesOf
    (groups : List OpenGroup)
    (read : Trees)
    (rest : List Lexeme) :
    ∀ tree, nestWithin groups read (lexemesOf tree ++ rest) = nestWithin groups (tree :: read) rest
  | .name _ => by rw [lexemesOf, List.singleton_append, nestWithin]
  | .mark _ _ => by rw [lexemesOf, List.singleton_append, nestWithin]
  | .literal _ => by rw [lexemesOf, List.singleton_append, nestWithin]
  | .group delimiter content => by
      rw [lexemesOf, List.cons_append, nestWithin, List.append_assoc, nestWithin_lexemesOfList,
        List.singleton_append, nestWithin, if_pos rfl, List.append_nil, List.reverse_reverse]

theorem nestWithin_lexemesOfList
    (groups : List OpenGroup)
    (read : Trees)
    (rest : List Lexeme) :
    ∀ trees,
      nestWithin groups read (lexemesOfList trees ++ rest) =
        nestWithin groups (trees.reverse ++ read) rest
  | [] => rfl
  | tree :: others => by
      rw [lexemesOfList, List.append_assoc, nestWithin_lexemesOf, nestWithin_lexemesOfList,
        List.reverse_cons, List.append_assoc, List.singleton_append]

end

theorem nest?_lexemesOfList (trees : Trees) : nest? (lexemesOfList trees) = some trees := by
  have nested := nestWithin_lexemesOfList [] [] [] trees
  rw [List.append_nil, List.append_nil] at nested
  rw [nest?, nested, nestWithin, List.reverse_reverse]

/-- The text of a path from the outside: its words, each behind two colons. -/
def pathText (words : List (List Char)) : List Char :=
  words.flatMap fun word => ':' :: ':' :: word

/-- The tokens of a path from the outside. -/
def pathTrees (words : List (List Char)) : Trees :=
  words.flatMap fun word => [.mark ':' .joint, .mark ':' .alone, .name word]

/-- What is said where the constructor refuses what has been checked. -/
def unreachableMessage : List Char :=
  "refined literal was checked at compile time".toList

/-- What is emitted behind the call: the answer's value is taken out. -/
def unwrapping : Trees :=
  [.mark '.' .alone, .name "unwrap_or_else".toList,
    .group .parenthesis
      (.mark '|' .alone :: .name ['_'] :: .mark '|' .alone ::
        (pathTrees ["core".toList, "unreachable".toList] ++
          [.mark '!' .alone,
            .group .parenthesis [.literal (.plain unreachableMessage)]]))]

/-- The path of the constructor of strings that are not empty. -/
def stringConstructor : List (List Char) :=
  ["safe_literals", "refined", "NonEmptyString", "new"].map String.toList

/-- The path of the function that makes a string from a literal. -/
def stringConversion : List (List Char) :=
  ["std", "string", "String", "from"].map String.toList

/-- The path of the type of refined numbers. -/
def numberType : List (List Char) :=
  ["safe_literals", "refined", "Refined"].map String.toList

/-- The path of a refinement. -/
def refinementPath (name : List Char) : List (List Char) :=
  ["safe_literals".toList, "refined".toList, name]

/-- The constructor call that makes a string of the argument and refines it. -/
def stringCall (argument : Trees) : Trees :=
  pathTrees stringConstructor ++
    .group .parenthesis (pathTrees stringConversion ++ [.group .parenthesis argument]) ::
      unwrapping

/-- The constructor call that refines a number of any type. -/
def numberCall (name : List Char) (argument : Trees) : Trees :=
  pathTrees numberType ++
    .mark ':' .joint :: .mark ':' .joint :: .mark '<' .alone :: .name ['_'] ::
      .mark ',' .alone ::
      (pathTrees (refinementPath name) ++
        .mark '>' .joint :: .mark ':' .joint :: .mark ':' .alone :: .name "new".toList ::
          .group .parenthesis argument :: unwrapping)

/-- A word stands apart from the mark in front of it. -/
theorem IsPlainWord.startsApart
    {word : List Char}
    (isWord : IsPlainWord word)
    (text : List Char) :
    StartsApart (word ++ text) := by
  obtain ⟨isThere, plain⟩ := isWord
  cases word with
  | nil => exact absurd rfl isThere
  | cons c rest =>
      refine ⟨c, rfl, ?_⟩
      rw [List.all_eq_true.mp plain c List.mem_cons_self]
      rfl

theorem endsPlainWord_path
    (words : List (List Char))
    {text : List Char}
    (ends : EndsPlainWord text) :
    EndsPlainWord (pathText words ++ text) := by
  cases words with
  | nil => exact ends
  | cons => exact ⟨':', rfl, by decide⟩

end Token

/-- The tokens of a literal behind minus signs, of which each is joint with the next lexeme or not. -/
def Literal.signed (signs : List Spacing) (written : Literal) : Trees :=
  signs.map (.mark '-' ·) ++ [.literal written]

/-- The text of a literal behind minus signs. -/
def Literal.signedText (count : Nat) (written : Literal) : List Char :=
  List.replicate count '-' ++ written.spelling

open Token

namespace FrontEnd

variable
  {frontEnd : FrontEnd}
  (cuts : frontEnd.CutsCalls)

namespace CutsCalls

include cuts

/-- In front of anything but a mark, a mark is a lexeme on its own. -/
theorem alone
    (symbol : Char)
    {text : List Char}
    {more : List Lexeme}
    (isMark : symbol ∈ callMarks)
    (apart : StartsApart text)
    (read : frontEnd.lexemes? text = some more) :
    frontEnd.lexemes? (symbol :: text) = some (.tree (.mark symbol .alone) :: more) := by
  obtain ⟨spacing, cut, _, isAlone⟩ := cuts.mark symbol isMark read
  rwa [isAlone apart] at cut

/-- In front of another mark, a mark is joint. -/
theorem joint
    (symbol : Char)
    {text : List Char}
    {more : List Lexeme}
    (isMark : symbol ∈ callMarks)
    (another : StartsCallMark text)
    (read : frontEnd.lexemes? text = some more) :
    frontEnd.lexemes? (symbol :: text) = some (.tree (.mark symbol .joint) :: more) := by
  obtain ⟨spacing, cut, isJoint, _⟩ := cuts.mark symbol isMark read
  rwa [isJoint another] at cut

/-- Two colons in front of a word are cut as one operator. -/
theorem colons
    {text : List Char}
    {more : List Lexeme}
    (apart : StartsApart text)
    (read : frontEnd.lexemes? text = some more) :
    frontEnd.lexemes? (':' :: ':' :: text) =
      some (.tree (.mark ':' .joint) :: .tree (.mark ':' .alone) :: more) :=
  cuts.joint ':' (by decide) ⟨':', rfl, by decide⟩ (cuts.alone ':' (by decide) apart read)

/-- A path is cut word by word. -/
theorem path
    (words : List (List Char))
    {text : List Char}
    {more : List Lexeme}
    (areWords : ∀ word ∈ words, IsPlainWord word)
    (ends : EndsPlainWord text)
    (read : frontEnd.lexemes? text = some more) :
    frontEnd.lexemes? (pathText words ++ text) = some (lexemesOfList (pathTrees words) ++ more) := by
  induction words with
  | nil => exact read
  | cons word words restRead =>
      obtain ⟨isWord, others⟩ := List.forall_mem_cons.mp areWords
      have named := cuts.word word isWord (endsPlainWord_path words ends) (restRead others)
      have whole := cuts.colons (isWord.startsApart _) named
      simpa only [pathText, pathTrees, List.flatMap_cons, List.cons_append, List.nil_append,
        List.append_assoc, lexemesOfList, lexemesOf] using whole

/-- The code behind the call is cut into the tokens that take the value out. -/
theorem unwrapping :
    frontEnd.lexemes? Expansion.unwrapping.toList = some (lexemesOfList Token.unwrapping) := by
  have text : Expansion.unwrapping.toList =
      '.' :: ("unwrap_or_else".toList ++ '(' :: '|' :: (['_'] ++ '|' :: ' ' ::
        (pathText ["core".toList, "unreachable".toList] ++
          '!' :: '(' :: ((Literal.plain unreachableMessage).spelling ++ ')' :: [')'])))) := by
    decide +kernel
  have message := cuts.literal (cuts.quoted unreachableMessage (by decide +kernel))
    (cuts.closing (cuts.closing cuts.nothing))
  have called := cuts.alone '!' (by decide) ⟨'(', rfl, by decide⟩
    (cuts.opening (by simp [Literal.plain]) message)
  have reached := cuts.path ["core".toList, "unreachable".toList] (by decide)
    ⟨'!', rfl, by decide⟩ called
  have bound := cuts.alone '|' (by decide) ⟨' ', rfl, by decide⟩ (cuts.blank reached)
  have ignored := cuts.word ['_'] (by decide) ⟨'|', rfl, by decide⟩ bound
  have handler := cuts.alone '|' (by decide) ⟨'_', rfl, by decide⟩ ignored
  have unwrapped := cuts.word "unwrap_or_else".toList (by decide) ⟨'(', rfl, by decide⟩
    (cuts.opening (by simp) handler)
  rw [text, cuts.alone '.' (by decide) ⟨'u', rfl, by decide⟩ unwrapped]
  simp only [Token.unwrapping, lexemesOfList, lexemesOf, lexemesOfList_append, List.append_assoc,
    List.cons_append, List.nil_append]

/-- The generic arguments of the type of refined numbers are cut up to the constructor's name. -/
theorem generics
    {name text : List Char}
    {more : List Lexeme}
    (isName : IsPlainWord name)
    (ends : EndsPlainWord text)
    (read : frontEnd.lexemes? text = some more) :
    frontEnd.lexemes?
        (pathText numberType ++ ':' :: ':' :: '<' :: (['_'] ++ ',' :: ' ' ::
          (pathText (refinementPath name) ++ '>' :: ':' :: ':' :: ("new".toList ++ text)))) =
      some
        (lexemesOfList (pathTrees numberType) ++ .tree (.mark ':' .joint) ::
          .tree (.mark ':' .joint) :: .tree (.mark '<' .alone) :: .tree (.name ['_']) ::
          .tree (.mark ',' .alone) ::
          (lexemesOfList (pathTrees (refinementPath name)) ++ .tree (.mark '>' .joint) ::
            .tree (.mark ':' .joint) :: .tree (.mark ':' .alone) :: .tree (.name "new".toList) ::
              more)) := by
  have isNew : IsPlainWord "new".toList := by decide
  have areWords : ∀ word ∈ refinementPath name, IsPlainWord word := by
    simp only [refinementPath, List.forall_mem_cons]
    exact ⟨by decide, by decide, isName, by simp⟩
  have new := cuts.word "new".toList isNew ends read
  have closed := cuts.joint '>' (by decide) ⟨':', rfl, by decide⟩
    (cuts.colons (isNew.startsApart _) new)
  have typed := cuts.path _ areWords ⟨'>', rfl, by decide⟩ closed
  have comma := cuts.alone ',' (by decide) ⟨' ', rfl, by decide⟩ (cuts.blank typed)
  have inferred := cuts.word ['_'] (by decide) ⟨',', rfl, by decide⟩ comma
  have opened := cuts.alone '<' (by decide) ⟨'_', rfl, by decide⟩ inferred
  have second := cuts.joint ':' (by decide) ⟨'<', rfl, by decide⟩ opened
  have first := cuts.joint ':' (by decide) ⟨':', rfl, by decide⟩ second
  exact cuts.path numberType (by decide) ⟨':', rfl, by decide⟩ first

/-- Minus signs are cut off one by one, whatever is behind them. -/
theorem signs
    (count : Nat)
    {text : List Char}
    {more : List Lexeme}
    (read : frontEnd.lexemes? text = some more) :
    ∃ signs : List Spacing,
      signs.length = count ∧
        frontEnd.lexemes? (List.replicate count '-' ++ text) =
          some (lexemesOfList (signs.map (.mark '-' ·)) ++ more) := by
  induction count with
  | zero => exact ⟨[], rfl, read⟩
  | succ count fewer =>
      obtain ⟨signs, length, fewerRead⟩ := fewer
      obtain ⟨spacing, cut, _⟩ := cuts.mark '-' (by decide) fewerRead
      exact ⟨spacing :: signs, by rw [List.length_cons, length], cut⟩

variable
  {written : Literal}
  (isToken : frontEnd.IsToken written)

include isToken

/-- The parentheses of a call close right behind its argument. -/
theorem argument
    (count : Nat)
    {text : List Char}
    {more : List Lexeme}
    (read : frontEnd.lexemes? text = some more) :
    ∃ signs : List Spacing,
      signs.length = count ∧
        frontEnd.lexemes? ('(' :: (written.signedText count ++ ')' :: text)) =
          some (lexemesOf (.group .parenthesis (written.signed signs)) ++ more) := by
  obtain ⟨signs, length, signed⟩ := cuts.signs count (cuts.literal isToken (cuts.closing read))
  have noComment : (written.signedText count ++ ')' :: text).head? ≠ some '/' := by
    cases count with
    | zero =>
        have begins := cuts.noComment isToken
        rw [Literal.signedText, List.replicate_zero, List.nil_append]
        cases shape : written.spelling with
        | nil => simp
        | cons c rest => simpa [shape] using begins
    | succ count => simp [Literal.signedText, List.replicate_succ]
  rw [← List.append_assoc] at signed
  refine ⟨signs, length, ?_⟩
  rw [cuts.opening noComment signed]
  simp [lexemesOf, Literal.signed, lexemesOfList_append, lexemesOfList]

/-- The text of the call for a string is cut into its lexemes. -/
theorem stringCall
    (count : Nat) :
    ∃ signs : List Spacing,
      signs.length = count ∧
        frontEnd.lexemes?
            (pathText stringConstructor ++ '(' :: (pathText stringConversion ++
              '(' :: (written.signedText count ++ ')' :: ')' :: Expansion.unwrapping.toList))) =
          some (lexemesOfList (Token.stringCall (written.signed signs))) := by
  obtain ⟨signs, length, call⟩ := cuts.argument isToken count (cuts.closing cuts.unwrapping)
  have converted := cuts.path stringConversion (by decide) ⟨'(', rfl, by decide⟩ call
  refine ⟨signs, length, ?_⟩
  rw [cuts.path stringConstructor (by decide) ⟨'(', rfl, by decide⟩
    (cuts.opening (by simp [pathText, stringConversion]) converted)]
  simp only [Token.stringCall, lexemesOfList_append, lexemesOfList, lexemesOf,
    List.append_assoc, List.cons_append, List.nil_append, List.append_nil]

/-- So is the text of the call for a number. -/
theorem numberCall
    {name : List Char}
    (isName : IsPlainWord name)
    (count : Nat) :
    ∃ signs : List Spacing,
      signs.length = count ∧
        frontEnd.lexemes?
            (pathText numberType ++ ':' :: ':' :: '<' :: (['_'] ++ ',' :: ' ' ::
              (pathText (refinementPath name) ++ '>' :: ':' :: ':' :: ("new".toList ++
                '(' :: (written.signedText count ++ ')' :: Expansion.unwrapping.toList))))) =
          some (lexemesOfList (Token.numberCall name (written.signed signs))) := by
  obtain ⟨signs, length, call⟩ := cuts.argument isToken count cuts.unwrapping
  refine ⟨signs, length, ?_⟩
  rw [cuts.generics isName ⟨'(', rfl, by decide⟩ call]
  simp only [Token.numberCall, lexemesOfList_append, lexemesOfList, lexemesOf,
    List.append_assoc, List.cons_append, List.nil_append]

end CutsCalls

end FrontEnd

namespace Kind

/-- The call of the kind's constructor on an argument, with the value taken out of its answer. -/
def constructorCall (kind : Kind) (argument : Trees) : Trees :=
  match kind with
  | .nonEmptyString => Token.stringCall argument
  | kind => Token.numberCall kind.name.toList argument

theorem constructorCall_of_isNumeric
    {kind : Kind}
    (numeric : kind.isNumeric = true)
    (argument : Trees) :
    kind.constructorCall argument = Token.numberCall kind.name.toList argument := by
  cases kind with
  | nonEmptyString => cases numeric
  | _ => rfl

theorem opening_of_isNumeric
    {kind : Kind}
    (numeric : kind.isNumeric = true) :
    (Expansion.opening kind).toList =
      pathText numberType ++ ':' :: ':' :: '<' :: (['_'] ++ ',' :: ' ' ::
        (pathText (refinementPath kind.name.toList) ++
          '>' :: ':' :: ':' :: ("new".toList ++ ['(']))) := by
  rw [Expansion.opening_eq_of_isNumeric numeric]
  simp [Expansion.libraryPath, pathText, numberType, refinementPath]

theorem closing_of_isNumeric
    {kind : Kind}
    (numeric : kind.isNumeric = true) :
    (Expansion.closing kind).toList = ')' :: Expansion.unwrapping.toList := by
  cases kind with
  | nonEmptyString => cases numeric
  | _ => exact String.toList_append

end Kind

/-- The emitted code around a literal is cut into the tokens of the call on this literal. -/
theorem FrontEnd.CutsCalls.trees?_render
    {frontEnd : FrontEnd}
    (cuts : frontEnd.CutsCalls)
    {written : Literal}
    (isToken : frontEnd.IsToken written)
    (kind : Kind)
    (count : Nat) :
    ∃ signs : List Spacing,
      signs.length = count ∧
        frontEnd.trees?
            (Expansion.render
              { kind := kind, literal := String.ofList (written.signedText count) }).toList =
          some (kind.constructorCall (written.signed signs)) := by
  rw [Expansion.render, String.toList_append, String.toList_append, String.toList_ofList]
  cases numeric : kind.isNumeric with
  | true =>
      have isName : IsPlainWord kind.name.toList := by cases kind <;> decide
      obtain ⟨signs, length, call⟩ := cuts.numberCall isToken isName count
      refine ⟨signs, length, ?_⟩
      rw [Kind.constructorCall_of_isNumeric numeric, Kind.opening_of_isNumeric numeric,
        Kind.closing_of_isNumeric numeric]
      simp only [List.append_assoc, List.cons_append, List.nil_append] at call ⊢
      rw [FrontEnd.trees?, call, Option.bind_some, nest?_lexemesOfList]
  | false =>
      obtain rfl := Kind.eq_nonEmptyString_of_isNumeric numeric
      obtain ⟨signs, length, call⟩ := cuts.stringCall isToken count
      have opening : (Expansion.opening .nonEmptyString).toList =
          pathText stringConstructor ++ '(' :: (pathText stringConversion ++ ['(']) := by
        simp [Expansion.opening, Expansion.libraryPath, pathText, stringConstructor,
          stringConversion]
      have closing : (Expansion.closing .nonEmptyString).toList =
          ')' :: ')' :: Expansion.unwrapping.toList := String.toList_append
      refine ⟨signs, length, ?_⟩
      rw [opening, closing]
      simp only [List.append_assoc, List.cons_append, List.nil_append] at call ⊢
      rw [FrontEnd.trees?, call, Option.bind_some, nest?_lexemesOfList]
      rfl

end CheckedLiterals
