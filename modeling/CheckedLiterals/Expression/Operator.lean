import CheckedLiterals.Expression.Basic

namespace CheckedLiterals

/-!
# Operators

The binary operators with their levels, and how operators and words are found at
the beginning of a token stream.  The content of an invisible group at the
beginning is looked at as if the group were not there.
-/

/-- How tightly an operator binds, from loosely to tightly. -/
inductive Level where
  | loosest
  | assignment
  | range
  | or
  | and
  | comparison
  | bitOr
  | bitXor
  | bitAnd
  | shift
  | sum
  | product
  | cast
  deriving Repr, DecidableEq

namespace Level

/-- The levels in order. -/
def rank : Level → Nat
  | .loosest => 0
  | .assignment => 1
  | .range => 2
  | .or => 3
  | .and => 4
  | .comparison => 5
  | .bitOr => 6
  | .bitXor => 7
  | .bitAnd => 8
  | .shift => 9
  | .sum => 10
  | .product => 11
  | .cast => 12

end Level

/-- A binary operator. -/
structure Operator where
  symbol : List Char
  level : Level
  deriving Repr, DecidableEq

namespace Operator

/-- The binary operators, the longer ones before their own beginnings. -/
def all : List Operator :=
  [⟨"+=".toList, .assignment⟩, ⟨"-=".toList, .assignment⟩, ⟨"*=".toList, .assignment⟩,
    ⟨"/=".toList, .assignment⟩, ⟨"%=".toList, .assignment⟩, ⟨"^=".toList, .assignment⟩,
    ⟨"&=".toList, .assignment⟩, ⟨"|=".toList, .assignment⟩, ⟨"<<=".toList, .assignment⟩,
    ⟨">>=".toList, .assignment⟩, ⟨"&&".toList, .and⟩, ⟨"||".toList, .or⟩,
    ⟨"<<".toList, .shift⟩, ⟨">>".toList, .shift⟩, ⟨"==".toList, .comparison⟩,
    ⟨"<=".toList, .comparison⟩, ⟨"!=".toList, .comparison⟩, ⟨">=".toList, .comparison⟩,
    ⟨"+".toList, .sum⟩, ⟨"-".toList, .sum⟩, ⟨"*".toList, .product⟩, ⟨"/".toList, .product⟩,
    ⟨"%".toList, .product⟩, ⟨"^".toList, .bitXor⟩, ⟨"&".toList, .bitAnd⟩,
    ⟨"|".toList, .bitOr⟩, ⟨"<".toList, .comparison⟩, ⟨">".toList, .comparison⟩]

/-- The shape of an expression with this operator. -/
def shape (operator : Operator) : Shape :=
  if operator.level = .comparison then .comparison else .other

end Operator

namespace Trees

mutual

/-- The tokens of an invisible group without the walls around its first token, or a token alone. -/
def exposedTree : TokenTree → Trees
  | .group .invisible content => exposed content
  | tree => [tree]

/-- The stream without the walls of invisible groups around its first token. -/
def exposed : Trees → Trees
  | [] => []
  | tree :: rest =>
      match exposedTree tree with
      | [] => exposed rest
      | first :: others => first :: (others ++ rest)

end

/-- The stream behind the marks of an operator; all but the last have to be joint. -/
def afterSymbol? : List Char → Trees → Option Trees
  | [], trees => some trees
  | symbol :: more, trees =>
      match exposed trees with
      | .mark found spacing :: rest =>
          if found = symbol && (more.isEmpty || spacing = .joint) then
            afterSymbol? more rest
          else
            none
      | _ => none

/-- Whether the stream begins with an operator. -/
def startsWith (symbol : String) (trees : Trees) : Bool :=
  (afterSymbol? symbol.toList trees).isSome

/-- The stream behind a word. -/
def afterWord? (word : String) (trees : Trees) : Option Trees :=
  match exposed trees with
  | .name text :: rest => if text = word.toList then some rest else none
  | _ => none

/-- Whether the stream begins with a word. -/
def startsWithWord (word : String) (trees : Trees) : Bool :=
  (afterWord? word trees).isSome

/-- The content of the group with these delimiters at the beginning, and the rest. -/
def enclosed? (delimiter : Delimiter) (trees : Trees) : Option (Trees × Trees) :=
  match exposed trees with
  | .group found content :: rest => if found = delimiter then some (content, rest) else none
  | _ => none

/-- The binary operator at the beginning of the stream, and the rest. -/
def operator? (trees : Trees) : Option (Operator × Trees) :=
  Operator.all.findSome? fun operator =>
    (afterSymbol? operator.symbol trees).map fun rest => (operator, rest)

/-- Whether the stream begins with the sign of a plain assignment. -/
def startsAssignment (trees : Trees) : Bool :=
  startsWith "=" trees && !startsWith "=>" trees

/-- The level of what the stream begins with, if it can go on with an expression. -/
def nextLevel (trees : Trees) : Level :=
  match operator? trees with
  | some (operator, _) => operator.level
  | none =>
      if startsAssignment trees then .assignment
      else if startsWith ".." trees then .range
      else if startsWithWord "as" trees then .cast
      else .loosest

/-- The marks of a range at the beginning of the stream, and the rest. -/
def rangeMarks? (trees : Trees) : Option (List Char × Trees) :=
  match afterSymbol? "..=".toList trees with
  | some rest => some ("..=".toList, rest)
  | none =>
      if startsWith "..." trees then
        none
      else
        (afterSymbol? "..".toList trees).map fun rest => ("..".toList, rest)

/-- Whether a half-open range ends where the stream begins. -/
def endsRange (trees : Trees) : Bool :=
  trees.isEmpty || startsWith "," trees || startsWith ";" trees ||
    (startsWith "." trees && !startsWith ".." trees) || startsWith "?" trees ||
    startsWith "=" trees || startsWith "+" trees || startsWith "/" trees ||
    startsWith "%" trees || startsWith "^" trees || startsWith ">" trees ||
    startsWith "<=" trees || startsWith "!=" trees || startsWith "-=" trees ||
    startsWith "*=" trees || startsWith "&=" trees || startsWith "|=" trees ||
    startsWith "<<=" trees || startsWithWord "as" trees

end Trees

end CheckedLiterals
