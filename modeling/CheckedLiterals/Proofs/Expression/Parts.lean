import CheckedLiterals.Expression.Parser

namespace CheckedLiterals.Expression

/-!
# Readers by their parts

Some readers settle in passing how a small piece is read, before they go on with what is
left.  Such pieces have a name here, and the readers are described by what they do with them.
-/

open Trees

/-- The two colons at the beginning of a stream as they are put out, and the rest. -/
def leadingColons (trees : Trees) : Trees × Trees :=
  match afterSymbol? "::".toList trees with
  | some rest => (operatorMarks "::".toList, rest)
  | none => ([], trees)

theorem generics?_succ
    (steps : Nat)
    (trees : Trees) :
    generics? (steps + 1) trees =
      match (afterSymbol? ['<'] (leadingColons trees).2).bind (genericArguments? steps) with
      | some (tokens, remaining) =>
          (afterSymbol? ['>'] remaining).map fun remaining =>
            ((leadingColons trees).1 ++ .mark '<' .alone :: (tokens ++ [.mark '>' .alone]),
              remaining)
      | none => none := by
  rw [generics?]
  rfl

theorem path?_succ
    (steps : Nat)
    (inType : Bool)
    (trees : Trees) :
    path? (steps + 1) inType trees =
      match afterSymbol? ['<'] trees with
      | some rest => qualifiedPath? steps inType rest
      | none =>
          match segment? steps inType (leadingColons trees).2 with
          | some (tokens, isPlain, remaining) =>
              (moreSegments? steps inType remaining).map fun (more, arePlain, remaining) =>
                ((leadingColons trees).1 ++ tokens ++ more, isPlain && arePlain, remaining)
          | none => none := by
  rw [path?]
  rfl

/-- Read what a qualifying type is converted to, if it is: its tokens and the rest. -/
def conversion? (steps : Nat) (trees : Trees) : Option (Trees × Trees) :=
  match afterWord? "as" trees with
  | some remaining =>
      (path? steps true remaining).map fun (tokens, _, remaining) =>
        (.name "as".toList :: tokens, remaining)
  | none => some ([], trees)

theorem qualifiedPath?_succ
    (steps : Nat)
    (inType : Bool)
    (trees : Trees) :
    qualifiedPath? (steps + 1) inType trees =
      match type? steps trees with
      | some (tokens, rest) =>
          match conversion? steps rest with
          | some (converted, rest) =>
              match (afterSymbol? ['>'] rest).bind (moreSegments? steps inType) with
              | some (more, _, remaining) =>
                  if more.isEmpty then
                    none
                  else
                    some
                      (.mark '<' .alone :: (tokens ++ converted ++ .mark '>' .alone :: more),
                        false, remaining)
              | none => none
          | none => none
      | none => none := by
  rw [qualifiedPath?]
  rfl

/-- Read generic arguments behind the marks of a path, if the marks are there. -/
def optionalGenerics? (steps : Nat) (trees : Trees) : Option (Trees × Trees) :=
  if startsWith "::" trees then generics? steps trees else some ([], trees)

theorem namedMember?_succ
    (steps : Nat)
    (tokens trees : Trees) :
    namedMember? (steps + 1) tokens trees =
      match exposed trees with
      | .literal written :: rest =>
          if written.form = .integer then
            (tupleIndex? written.spelling).map fun index =>
              (tokens ++ [.mark '.' .alone, index], rest)
          else
            none
      | .name word :: rest =>
          if word = "await".toList then
            some (tokens ++ [.mark '.' .alone, .name word], rest)
          else if !isIdentifier word then
            none
          else
            match optionalGenerics? steps rest with
            | some (arguments, remaining) =>
                match enclosed? .parenthesis remaining with
                | some (content, behind) =>
                    (elements? steps content).map fun (elements, trailing) =>
                      (tokens ++ [.mark '.' .alone, .name word] ++ arguments ++
                        [.group .parenthesis (sequenceTokens elements trailing)], behind)
                | none =>
                    if arguments.isEmpty then
                      some (tokens ++ [.mark '.' .alone, .name word], rest)
                    else
                      none
            | none => none
      | _ => none := by
  rw [namedMember?]
  rfl

/-- Read one generic argument: a literal, or else a type. -/
def genericArgument? (steps : Nat) (trees : Trees) : Option (Trees × Trees) :=
  match exposed trees with
  | .literal written :: rest => some ([.literal written], rest)
  | _ => type? steps trees

theorem genericArguments?_succ
    (steps : Nat)
    (trees : Trees) :
    genericArguments? (steps + 1) trees =
      if startsWith ">" trees then
        some ([], trees)
      else
        match genericArgument? steps trees with
        | some (tokens, rest) =>
            if startsWith ">" rest then
              some (tokens, rest)
            else
              match afterSymbol? [','] rest with
              | some remaining =>
                  (genericArguments? steps remaining).map fun (more, remaining) =>
                    (tokens ++ .mark ',' .alone :: more, remaining)
              | none => none
        | none => none := by
  rw [genericArguments?]
  rfl

end CheckedLiterals.Expression
