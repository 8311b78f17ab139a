import CheckedLiterals.Expression.Operator
import CheckedLiterals.Text.Hexadecimal

namespace CheckedLiterals.Expression

/-!
# Reading expressions

Expressions are read from a stream of token trees by descent: a prefixed operand,
what trails it, and then the binary operators by level.  Each reader gives what it
read and the rest of the stream, or nothing if the stream does not begin so.  The
first argument bounds the depth of the descent; `depthBound` at the end is a bound
that the stream cannot exhaust.

Only a part of the language is read: literals, paths, operators, casts, ranges,
calls, members, indices, macro calls, tuples, arrays, references and groups.  Left out
are blocks and everything else with a body in braces or with a leading keyword (`if`,
`match`, loops, `unsafe`, `async`, `const`, `return`, `break`, `continue`, `let`),
closures, struct expressions and raw addresses; of types those with a leading keyword or
a lifetime (`dyn`, `impl`, `fn`); and of generic arguments lifetimes, bindings and blocks.
A stream with one of these is not read.  So this is no description of the language, and
nothing that is proved of all front ends rests on it.
-/

open Trees

/-- The words that are no identifiers unless they are written raw. -/
def keywords : List (List Char) :=
  ["_", "abstract", "as", "async", "await", "become", "box", "break", "const", "continue",
    "crate", "do", "dyn", "else", "enum", "extern", "false", "final", "fn", "for", "if", "impl",
    "in", "let", "loop", "macro", "match", "mod", "move", "mut", "override", "priv", "pub", "ref",
    "return", "Self", "self", "static", "struct", "super", "trait", "true", "try", "type",
    "typeof", "unsafe", "unsized", "use", "virtual", "where", "while", "yield"].map String.toList

/-- Whether a word is an identifier. -/
def isIdentifier (word : List Char) : Bool :=
  !keywords.contains word

/-- The keywords that may be a segment of a path, without generic arguments. -/
def pathKeywords : List (List Char) :=
  ["super".toList, "self".toList, "crate".toList]

/-- Whether a word may be a segment of a path. -/
def isPathWord (word : List Char) : Bool :=
  isIdentifier word || pathKeywords.contains word || word == "Self".toList

/-- The two literals that are written as words. -/
def isTruthValue (word : List Char) : Bool :=
  word == "true".toList || word == "false".toList

/-- Any other expression than a literal, a group or a negation. -/
def other (tokens : Trees) : Expression :=
  .compound .other tokens

/-- The base of an integer literal and its digits behind the base. -/
def splitBase : List Char → Nat × List Char
  | '0' :: 'x' :: digits => (16, digits)
  | '0' :: 'o' :: digits => (8, digits)
  | '0' :: 'b' :: digits => (2, digits)
  | digits => (10, digits)

/-- The value of digits in a base, of which underscores are none. -/
def baseValue? (base : Nat) (digits : List Char) : Option Nat :=
  (digits.filter (· != '_')).foldlM
    (fun value digit =>
      match Text.hexDigit? digit with
      | some next => if next < base then some (base * value + next) else none
      | none => none)
    0

/-- The position in a tuple that a literal without suffix names, in decimal digits. -/
def tupleIndex? (spelling : List Char) : Option TokenTree :=
  let (base, digits) := splitBase spelling
  match baseValue? base digits with
  | some value =>
      if !spelling.isEmpty && value < 1 <<< 32 then
        some (.literal { form := .integer, spelling := Nat.toDigits 10 value })
      else
        none
  | none => none

/-- The parts of a text between its points. -/
def splitPoints : List Char → List (List Char)
  | [] => [[]]
  | c :: rest =>
      if c = '.' then
        [] :: splitPoints rest
      else
        match splitPoints rest with
        | [] => [[c]]
        | part :: parts => (c :: part) :: parts

/-- The positions in nested tuples that a float with points names, each behind a point. -/
def tupleIndices? (spelling : List Char) : Option Trees :=
  let parts :=
    if spelling.getLast? = some '.' then
      splitPoints spelling.dropLast
    else
      splitPoints spelling
  (parts.mapM tupleIndex?).map fun indices => indices.flatMap fun index => [.mark '.' .alone, index]

/-- The tokens of expressions with commas between them and, if there is one, at the end. -/
def sequenceTokens : List Expression → Bool → Trees
  | [], _ => []
  | [last], trailing => last.tokens ++ (if trailing then [.mark ',' .alone] else [])
  | first :: second :: rest, trailing =>
      first.tokens ++ .mark ',' .alone :: sequenceTokens (second :: rest) trailing

/-- A path as an expression, or the call of a macro that it names. -/
def afterPath? (tokens : Trees) (isPlain : Bool) (rest : Trees) : Option (Expression × Trees) :=
  if isPlain && startsWith "!" rest && !startsWith "!=" rest then
    match (afterSymbol? ['!'] rest).map exposed with
    | some (.group delimiter content :: remaining) =>
        some (other (tokens ++ [.mark '!' .alone, .group delimiter content]), remaining)
    | _ => none
  else
    some (.compound .path tokens, rest)

/-- An operand behind attributes: a truth value is a literal, which is put out without them. -/
def behindAttributes : Expression → Expression
  | .compound .other [.name word] =>
      if isTruthValue word then .grouped (other [.name word]) else other [.name word]
  | expression => expression

/-- Attributes in front of an expression; a range without start takes none. -/
def withAttributes? (attributes : Trees) (expression : Expression) : Option Expression :=
  if attributes.isEmpty then
    some expression
  else if expression.isRange then
    none
  else
    some (.attributed attributes (behindAttributes expression))

mutual

/-- Read a type: its tokens and the rest. -/
def type? : Nat → Trees → Option (Trees × Trees)
  | 0, _ => none
  | steps + 1, .group .invisible content :: rest =>
      match type? steps content with
      | some (tokens, []) => some (tokens, rest)
      | _ => none
  | steps + 1, .group .parenthesis content :: rest =>
      (types? steps content).map fun tokens => ([.group .parenthesis tokens], rest)
  | steps + 1, .group .bracket content :: rest =>
      match type? steps content with
      | some (tokens, []) => some ([.group .bracket tokens], rest)
      | some (tokens, remaining) =>
          match (afterSymbol? [';'] remaining).bind (whole? steps) with
          | some count =>
              some ([.group .bracket (tokens ++ .mark ';' .alone :: count.tokens)], rest)
          | none => none
      | none => none
  | steps + 1, .name word :: rest =>
      if word = ['_'] then
        some ([.name word], rest)
      else
        (path? steps true (.name word :: rest)).map fun (tokens, _, remaining) =>
          (tokens, remaining)
  | steps + 1, trees =>
      match afterSymbol? ['&'] trees with
      | some rest =>
          match afterWord? "mut" rest with
          | some remaining =>
              (type? steps remaining).map fun (tokens, remaining) =>
                (.mark '&' .alone :: .name "mut".toList :: tokens, remaining)
          | none =>
              (type? steps rest).map fun (tokens, remaining) =>
                (.mark '&' .alone :: tokens, remaining)
      | none =>
          match afterSymbol? ['*'] trees with
          | some (.name word :: rest) =>
              if word = "const".toList || word = "mut".toList then
                (type? steps rest).map fun (tokens, remaining) =>
                  (.mark '*' .alone :: .name word :: tokens, remaining)
              else
                none
          | some _ => none
          | none =>
              match afterSymbol? ['!'] trees with
              | some rest => some ([.mark '!' .alone], rest)
              | none =>
                  (path? steps true trees).map fun (tokens, _, remaining) => (tokens, remaining)

/-- Read the whole stream as types with commas between them. -/
def types? : Nat → Trees → Option Trees
  | 0, _ => none
  | _ + 1, [] => some []
  | steps + 1, trees =>
      match type? steps trees with
      | some (tokens, []) => some tokens
      | some (tokens, rest) =>
          match afterSymbol? [','] rest with
          | some remaining =>
              (types? steps remaining).map fun more => tokens ++ .mark ',' .alone :: more
          | none => none
      | none => none

/-- Read generic arguments up to the closing mark: their tokens and the rest from there on. -/
def genericArguments? : Nat → Trees → Option (Trees × Trees)
  | 0, _ => none
  | steps + 1, trees =>
      if startsWith ">" trees then
        some ([], trees)
      else
        let argument : Option (Trees × Trees) :=
          match exposed trees with
          | .literal written :: rest => some ([.literal written], rest)
          | _ => type? steps trees
        match argument with
        | some (tokens, rest) =>
            if startsWith ">" rest then
              some (tokens, rest)
            else
              match afterSymbol? [','] rest with
              | some remaining =>
                  (genericArguments? steps remaining).map fun (more, remaining) =>
                    (tokens ++ .mark ',' .alone :: more, remaining)
              | none => none
        | none => none

/-- Read generic arguments between their marks, with the marks of a path in front or not. -/
def generics? : Nat → Trees → Option (Trees × Trees)
  | 0, _ => none
  | steps + 1, trees =>
      let (colons, rest) :=
        match afterSymbol? "::".toList trees with
        | some rest => (operatorMarks "::".toList, rest)
        | none => ([], trees)
      match (afterSymbol? ['<'] rest).bind (genericArguments? steps) with
      | some (tokens, remaining) =>
          (afterSymbol? ['>'] remaining).map fun remaining =>
            (colons ++ .mark '<' .alone :: (tokens ++ [.mark '>' .alone]), remaining)
      | none => none

/-- Read a segment of a path: its tokens, whether it has no generic arguments, and the rest. -/
def segment? : Nat → Bool → Trees → Option (Trees × Bool × Trees)
  | 0, _, _ => none
  | steps + 1, inType, trees =>
      match exposed trees with
      | .name word :: rest =>
          if pathKeywords.contains word then
            some ([.name word], true, rest)
          else if !isPathWord word then
            none
          else if (inType && startsWith "<" rest && !startsWith "<=" rest) ||
              ((afterSymbol? "::".toList rest).any (startsWith "<")) then
            (generics? steps rest).map fun (tokens, remaining) =>
              (.name word :: tokens, false, remaining)
          else
            some ([.name word], true, rest)
      | _ => none

/-- Read the segments that follow the first one of a path; a group in parentheses ends it. -/
def moreSegments? : Nat → Bool → Trees → Option (Trees × Bool × Trees)
  | 0, _, _ => none
  | steps + 1, inType, trees =>
      match afterSymbol? "::".toList trees with
      | some rest =>
          if (enclosed? .parenthesis rest).isSome then
            some ([], true, trees)
          else
            match segment? steps inType rest with
            | some (tokens, isPlain, remaining) =>
                (moreSegments? steps inType remaining).map fun (more, arePlain, remaining) =>
                  (operatorMarks "::".toList ++ tokens ++ more, isPlain && arePlain, remaining)
            | none => none
      | none => some ([], true, trees)

/-- Read a path: its tokens, whether it is plain, and the rest. -/
def path? : Nat → Bool → Trees → Option (Trees × Bool × Trees)
  | 0, _, _ => none
  | steps + 1, inType, trees =>
      match afterSymbol? ['<'] trees with
      | some rest => qualifiedPath? steps inType rest
      | none =>
          let (colons, rest) :=
            match afterSymbol? "::".toList trees with
            | some rest => (operatorMarks "::".toList, rest)
            | none => ([], trees)
          match segment? steps inType rest with
          | some (tokens, isPlain, remaining) =>
              (moreSegments? steps inType remaining).map fun (more, arePlain, remaining) =>
                (colons ++ tokens ++ more, isPlain && arePlain, remaining)
          | none => none

/-- Read a path behind the mark that opens its qualifying type. -/
def qualifiedPath? : Nat → Bool → Trees → Option (Trees × Bool × Trees)
  | 0, _, _ => none
  | steps + 1, inType, trees =>
      match type? steps trees with
      | some (tokens, rest) =>
          let conversion : Option (Trees × Trees) :=
            match afterWord? "as" rest with
            | some remaining =>
                (path? steps true remaining).map fun (tokens, _, remaining) =>
                  (.name "as".toList :: tokens, remaining)
            | none => some ([], rest)
          match conversion with
          | some (converted, rest) =>
              match (afterSymbol? ['>'] rest).bind (moreSegments? steps inType) with
              | some (more, _, remaining) =>
                  if more.isEmpty then
                    none
                  else
                    some
                      (.mark '<' .alone :: (tokens ++ converted ++ .mark '>' .alone :: more),
                        false, remaining)
              | none => none
          | none => none
      | none => none

/-- Read attributes as long as the stream begins with one: their tokens and the rest. -/
def attributes? : Nat → Trees → Option (Trees × Trees)
  | 0, _ => none
  | steps + 1, .mark '#' _ :: rest =>
      match enclosed? .bracket rest with
      | some (content, remaining) =>
          match attributeContent? steps content, attributes? steps remaining with
          | some tokens, some (more, remaining) =>
              some (.mark '#' .alone :: .group .bracket tokens :: more, remaining)
          | _, _ => none
      | none => none
  | _ + 1, trees => some ([], trees)

/-- Read the whole stream as an attribute: a path, a path with a group, or a path with a value. -/
def attributeContent? : Nat → Trees → Option Trees
  | 0, _ => none
  | steps + 1, trees =>
      match path? steps false trees with
      | some (tokens, true, []) => some tokens
      | some (tokens, true, [.group delimiter content]) =>
          some (tokens ++ [.group delimiter content])
      | some (tokens, true, rest) =>
          match (afterSymbol? ['='] rest).bind (whole? steps) with
          | some value => some (tokens ++ .mark '=' .alone :: value.tokens)
          | none => none
      | _ => none

/-- Read the whole stream as one expression. -/
def whole? : Nat → Trees → Option Expression
  | 0, _ => none
  | steps + 1, trees =>
      match expression? steps trees with
      | some (expression, []) => some expression
      | _ => none

/-- Read the whole stream as expressions with commas between them, and whether a comma ends it. -/
def elements? : Nat → Trees → Option (List Expression × Bool)
  | 0, _ => none
  | _ + 1, [] => some ([], false)
  | steps + 1, trees =>
      match expression? steps trees with
      | some (expression, []) => some ([expression], false)
      | some (expression, rest) =>
          match afterSymbol? [','] rest with
          | some [] => some ([expression], true)
          | some remaining =>
              (elements? steps remaining).map fun (more, trailing) => (expression :: more, trailing)
          | none => none
      | none => none

/-- Read an expression. -/
def expression? : Nat → Trees → Option (Expression × Trees)
  | 0, _ => none
  | steps + 1, trees =>
      match prefixed? steps trees with
      | some (operand, rest) => climb? steps operand .loosest rest
      | none => none

/-- Read an operand with the attributes and the operators in front of it. -/
def prefixed? : Nat → Trees → Option (Expression × Trees)
  | 0, _ => none
  | steps + 1, trees =>
      match attributes? steps trees with
      | some (attributes, rest) =>
          match unary? steps rest with
          | some (expression, remaining) =>
              (withAttributes? attributes expression).map fun expression => (expression, remaining)
          | none => none
      | none => none

/-- Read an operand with the operators in front of it. -/
def unary? : Nat → Trees → Option (Expression × Trees)
  | 0, _ => none
  | steps + 1, .mark '-' _ :: rest =>
      (prefixed? steps rest).map fun (operand, remaining) => (.negation operand, remaining)
  | steps + 1, .mark '!' _ :: rest =>
      (prefixed? steps rest).map fun (operand, remaining) =>
        (other (.mark '!' .alone :: operand.tokens), remaining)
  | steps + 1, .mark '*' _ :: rest =>
      (prefixed? steps rest).map fun (operand, remaining) =>
        (other (.mark '*' .alone :: operand.tokens), remaining)
  | steps + 1, .mark '&' _ :: rest =>
      match afterWord? "mut" rest with
      | some remaining =>
          (prefixed? steps remaining).map fun (operand, remaining) =>
            (other (.mark '&' .alone :: .name "mut".toList :: operand.tokens), remaining)
      | none =>
          (prefixed? steps rest).map fun (operand, remaining) =>
            (other (.mark '&' .alone :: operand.tokens), remaining)
  | steps + 1, trees =>
      match atom? steps trees with
      | some (atom, rest) => trailing? steps atom rest
      | none => none

/-- Read an operand without operators around it. -/
def atom? : Nat → Trees → Option (Expression × Trees)
  | 0, _ => none
  | steps + 1, .group .invisible content :: rest =>
      match whole? steps content with
      | some (.compound .path tokens) =>
          match moreSegments? steps false rest with
          | some (more, isPlain, remaining) =>
              match afterPath? (tokens ++ more) isPlain remaining with
              | some (.compound .path _, _) =>
                  if more.isEmpty then
                    some (.grouped (.compound .path tokens), rest)
                  else
                    some (.compound .path (tokens ++ more), remaining)
              | extended => extended
          | none => none
      | some inner => some (.grouped inner, rest)
      | none => none
  | _ + 1, .literal written :: rest => some (.literal written, rest)
  | steps + 1, .name word :: rest =>
      if isTruthValue word || word = ['_'] then
        some (other [.name word], rest)
      else if isPathWord word then
        match path? steps false (.name word :: rest) with
        | some (tokens, isPlain, remaining) => afterPath? tokens isPlain remaining
        | none => none
      else
        none
  | steps + 1, .group .parenthesis content :: rest =>
      (elements? steps content).map fun (elements, trailing) =>
        (other [.group .parenthesis (sequenceTokens elements trailing)], rest)
  | steps + 1, .group .bracket content :: rest =>
      (bracketed? steps content).map fun tokens => (other [.group .bracket tokens], rest)
  | _ + 1, .group .brace _ :: _ => none
  | steps + 1, trees =>
      match rangeMarks? trees with
      | some (marks, rest) => (rangeEnd? steps marks rest).map fun (tokens, remaining) =>
          (.compound .range (operatorMarks marks ++ tokens), remaining)
      | none =>
          if startsWith "::" trees || startsWith "<" trees then
            match path? steps false trees with
            | some (tokens, isPlain, remaining) => afterPath? tokens isPlain remaining
            | none => none
          else
            none

/-- Read the whole stream as the elements of an array, or as an element and how often it stands. -/
def bracketed? : Nat → Trees → Option Trees
  | 0, _ => none
  | _ + 1, [] => some []
  | steps + 1, trees =>
      match expression? steps trees with
      | some (first, []) => some first.tokens
      | some (first, rest) =>
          match afterSymbol? [';'] rest with
          | some remaining =>
              (whole? steps remaining).map fun count =>
                first.tokens ++ .mark ';' .alone :: count.tokens
          | none =>
              match (afterSymbol? [','] rest).bind (elements? steps) with
              | some (elements, trailing) =>
                  some (first.tokens ++ .mark ',' .alone :: sequenceTokens elements trailing)
              | none => none
      | none => none

/-- Read what trails an operand: calls, members, indices and question marks. -/
def trailing? : Nat → Expression → Trees → Option (Expression × Trees)
  | 0, _, _ => none
  | steps + 1, expression, trees =>
      match enclosed? .parenthesis trees with
      | some (content, rest) =>
          match elements? steps content with
          | some (elements, trailing) =>
              trailing? steps
                (other
                  (expression.tokens ++ [.group .parenthesis (sequenceTokens elements trailing)]))
                rest
          | none => none
      | none =>
          match enclosed? .bracket trees with
          | some (content, rest) =>
              match whole? steps content with
              | some index =>
                  trailing? steps (other (expression.tokens ++ [.group .bracket index.tokens])) rest
              | none => none
          | none =>
              if expression.isRange then
                some (expression, trees)
              else
                match afterSymbol? ['?'] trees with
                | some rest =>
                    trailing? steps (other (expression.tokens ++ [.mark '?' .alone])) rest
                | none =>
                    if startsWith ".." trees then
                      some (expression, trees)
                    else
                      match afterSymbol? ['.'] trees with
                      | some rest =>
                          match member? steps expression.tokens rest with
                          | some (tokens, remaining) => trailing? steps (other tokens) remaining
                          | none => none
                      | none => some (expression, trees)

/-- Read a member behind a point: the tokens of the whole expression, and the rest. -/
def member? : Nat → Trees → Trees → Option (Trees × Trees)
  | 0, _, _ => none
  | steps + 1, tokens, trees =>
      match exposed trees with
      | .literal written :: rest =>
          match written.form with
          | .float =>
              match tupleIndices? written.spelling with
              | some indices =>
                  if written.spelling.getLast? = some '.' then
                    namedMember? steps (tokens ++ indices) rest
                  else
                    some (tokens ++ indices, rest)
              | none => none
          | _ => namedMember? steps tokens trees
      | _ => namedMember? steps tokens trees

/-- Read a member that is a name, with a call behind it or not, or a position. -/
def namedMember? : Nat → Trees → Trees → Option (Trees × Trees)
  | 0, _, _ => none
  | steps + 1, tokens, trees =>
      match exposed trees with
      | .literal written :: rest =>
          if written.form = .integer then
            (tupleIndex? written.spelling).map fun index =>
              (tokens ++ [.mark '.' .alone, index], rest)
          else
            none
      | .name word :: rest =>
          let named := tokens ++ [.mark '.' .alone, .name word]
          if word = "await".toList then
            some (named, rest)
          else if !isIdentifier word then
            none
          else
            let generics :=
              if startsWith "::" rest then generics? steps rest else some ([], rest)
            match generics with
            | some (arguments, remaining) =>
                match enclosed? .parenthesis remaining with
                | some (content, behind) =>
                    (elements? steps content).map fun (elements, trailing) =>
                      (named ++ arguments ++
                        [.group .parenthesis (sequenceTokens elements trailing)], behind)
                | none => if arguments.isEmpty then some (named, rest) else none
            | none => none
      | _ => none

/-- Read what a range ends in: its tokens, none if the range is half open, and the rest. -/
def rangeEnd? : Nat → List Char → Trees → Option (Trees × Trees)
  | 0, _, _ => none
  | steps + 1, marks, trees =>
      if marks = "..".toList && endsRange trees then
        some ([], trees)
      else
        (operand? steps .range trees).map fun (expression, remaining) =>
          (expression.tokens, remaining)

/-- Read the right operand of an operator, with what binds tighter than the operator. -/
def operand? : Nat → Level → Trees → Option (Expression × Trees)
  | 0, _, _ => none
  | steps + 1, level, trees =>
      match prefixed? steps trees with
      | some (operand, rest) => tighten? steps level operand rest
      | none => none

/-- Go on with a right operand as long as what follows binds tighter than the operator. -/
def tighten? : Nat → Level → Expression → Trees → Option (Expression × Trees)
  | 0, _, _, _ => none
  | steps + 1, level, operand, trees =>
      let next := nextLevel trees
      if operand.isRange then
        some (operand, trees)
      else if level.rank < next.rank || (next = .assignment && level = .assignment) then
        match climb? steps operand next trees with
        | some (extended, rest) => tighten? steps level extended rest
        | none => none
      else
        some (operand, trees)

/-- Go on with a left operand as long as what follows binds at least as tightly as the level. -/
def climb? : Nat → Expression → Level → Trees → Option (Expression × Trees)
  | 0, _, _, _ => none
  | steps + 1, left, level, trees =>
      if left.isRange then
        some (left, trees)
      else
        match operator? trees with
        | some (operator, rest) =>
            if operator.level.rank < level.rank then
              some (left, trees)
            else if operator.level = .comparison && left.isComparison then
              none
            else
              match operand? steps operator.level rest with
              | some (right, remaining) =>
                  climb? steps
                    (.compound operator.shape
                      (left.tokens ++ operatorMarks operator.symbol ++ right.tokens))
                    level remaining
              | none => none
        | none =>
            if level.rank ≤ Level.assignment.rank && startsAssignment trees then
              match (afterSymbol? ['='] trees).bind (operand? steps .assignment) with
              | some (right, remaining) =>
                  climb? steps (other (left.tokens ++ .mark '=' .alone :: right.tokens)) level
                    remaining
              | none => none
            else if level.rank ≤ Level.range.rank && startsWith ".." trees then
              match rangeMarks? trees with
              | some (marks, rest) =>
                  match rangeEnd? steps marks rest with
                  | some (tokens, remaining) =>
                      climb? steps
                        (.compound .range (left.tokens ++ operatorMarks marks ++ tokens))
                        level remaining
                  | none => none
              | none => none
            else
              match afterWord? "as" trees with
              | some rest =>
                  match type? steps rest with
                  | some (tokens, remaining) =>
                      climb? steps (other (left.tokens ++ .name "as".toList :: tokens)) level
                        remaining
                  | none => none
              | none => some (left, trees)

end

/-- A depth that no descent into the stream reaches. -/
def depthBound (trees : Trees) : Nat :=
  16 * (TokenTree.weightOfList trees + 1)

end CheckedLiterals.Expression
