namespace CheckedLiterals.Text

/-!
# Scanners

A scanner reads a text character by character and decides after each one: go on
in some state, stop because the text read so far is complete, or refuse it.
While it goes on it may give out characters, which together are the value of what
it reads.
-/

/-- What a scanner does after a character. -/
inductive Verdict (State : Type) where
  | goOn (state : State) (given : List Char)
  | complete
  | refuse
  deriving Repr, DecidableEq

/-- Run a scanner up to the end of what it reads: the characters given out, and the rest. -/
def scan
    {State : Type}
    (step : State → Char → Verdict State) :
    State → List Char → Option (List Char × List Char)
  | _, [] => none
  | state, c :: rest =>
      match step state c with
      | .goOn next given =>
          (scan step next rest).map fun (value, remaining) => (given ++ value, remaining)
      | .complete => some ([], rest)
      | .refuse => none

end CheckedLiterals.Text
