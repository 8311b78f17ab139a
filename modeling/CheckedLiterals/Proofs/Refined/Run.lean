import CheckedLiterals.Refined.Collection

namespace CheckedLiterals

/-!
# Runs on refined values

What an operation does to a collection is said once, case by case, and so is when a
predicate refuses what an operation comes to.  From the former it follows that a checked
value stays accepted by the predicate and a trusted value was inserted on trust, through
every operation and so through every run, whether its operations succeed or fail.
-/

section Outcomes

variable
  {Failure Result Next : Type}
  {action : Except Failure Result}
  {next : Result → Except Failure Next}

theorem bind_eq_ok_iff
    {after : Next} :
    (action >>= next) = .ok after ↔ ∃ result, action = .ok result ∧ next result = .ok after := by
  cases action <;> simp [bind, Except.bind]

theorem bind_eq_error_iff
    {failure : Failure} :
    (action >>= next) = .error failure ↔
      action = .error failure ∨ ∃ result, action = .ok result ∧ next result = .error failure := by
  cases action <;> simp [bind, Except.bind]

theorem pure_eq_ok_iff
    {result after : Result} :
    (pure result : Except Failure Result) = .ok after ↔ result = after := by
  simp [pure, Except.pure]

end Outcomes

variable
  {Value : Type}
  {predicate : Predicate Value}

namespace Refined

theorem check_eq_ok_iff
    {value : Value}
    {refined : Refined Value} :
    check predicate value = .ok refined ↔
      predicate.check value = .ok () ∧ { value := value, provenance := .checked } = refined := by
  rw [check]
  split <;> simp [*]

theorem check_eq_error_iff
    {value : Value}
    {message : String} :
    check predicate value = .error message ↔ predicate.check value = .error message := by
  rw [check]
  split <;> simp [*]

/-- A text decodes to the value that it holds, if the predicate accepts it and nothing follows. -/
theorem decode_eq_ok_iff
    {reader : Reader Value}
    {text : List Char}
    {refined : Refined Value} :
    decode predicate reader text = .ok refined ↔
      ∃ value rest,
        reader (Json.skipBlank text) = some (value, rest) ∧
          predicate.check value = .ok () ∧
          (Json.skipBlank rest).isEmpty = true ∧
          { value := value, provenance := .checked } = refined := by
  simp only [decode, Decoder.document, read, Decoder.refined, deserialize, Reader.decoder, check]
  cases reader (Json.skipBlank text) with
  | none => simp
  | some found =>
      obtain ⟨value, rest⟩ := found
      cases passed : predicate.check value with
      | error message => simp [passed]
      | ok => by_cases ends : Json.skipBlank rest = [] <;> simp [passed, ends, and_assoc]

/-- The predicate is asked as soon as a value is read, whatever follows it. -/
theorem decode_eq_refused_iff
    {reader : Reader Value}
    {text : List Char}
    {message : String} :
    decode predicate reader text = .error (.refused message) ↔
      ∃ value rest,
        reader (Json.skipBlank text) = some (value, rest) ∧
          predicate.check value = .error message := by
  simp only [decode, Decoder.document, read, Decoder.refined, deserialize, Reader.decoder, check]
  cases reader (Json.skipBlank text) with
  | none => simp
  | some found =>
      obtain ⟨value, rest⟩ := found
      cases passed : predicate.check value with
      | error refusal => simp [passed]
      | ok => by_cases ends : Json.skipBlank rest = [] <;> simp [passed, ends, and_assoc]

end Refined

namespace Collection

theorem slot?_eq_ok_iff
    {collection : Collection Value}
    {slot : Nat}
    {refined : Refined Value} :
    collection.slot? slot = .ok refined ↔ collection[slot]? = some refined := by
  rw [slot?]
  split <;> simp [*]

theorem accepted_eq_ok_iff
    {checked : Except String (Refined Value)}
    {refined : Refined Value} :
    accepted checked = .ok refined ↔ checked = .ok refined := by
  cases checked <;> simp [accepted]

theorem accepted_eq_refused_iff
    {checked : Except String (Refined Value)}
    {message : String} :
    accepted checked = .error (.refused message) ↔ checked = .error message := by
  cases checked <;> simp [accepted]

theorem decoded_eq_ok_iff
    {outcome : Except DecodeError (Refined Value)}
    {refined : Refined Value} :
    decoded outcome = .ok refined ↔ outcome = .ok refined := by
  rcases outcome with (_ | _) | _ <;> simp [decoded]

theorem decoded_eq_refused_iff
    {outcome : Except DecodeError (Refined Value)}
    {message : String} :
    decoded outcome = .error (.refused message) ↔ outcome = .error (.refused message) := by
  rcases outcome with (_ | _) | _ <;> simp [decoded]

/--
Whether a refined value is what its provenance says: a checked one is accepted by the
predicate, and a trusted one was inserted on trust by an operation.
-/
def Vouched
    (predicate : Predicate Value)
    (operations : List (Operation Value))
    (refined : Refined Value) :
    Prop :=
  match refined.provenance with
  | .checked => predicate.check refined.value = .ok ()
  | .trusted => .insertTrusted refined.value ∈ operations

theorem vouched_append
    {collection : Collection Value}
    {operations : List (Operation Value)}
    {added : Refined Value}
    (vouched : ∀ refined ∈ collection, Vouched predicate operations refined)
    (addedVouched : Vouched predicate operations added) :
    ∀ refined ∈ collection ++ [added], Vouched predicate operations refined := by
  intro refined member
  rcases List.mem_append.mp member with old | new
  · exact vouched refined old
  · rw [List.mem_singleton.mp new]
    exact addedVouched

variable [Domain Value]

/-- What a collection is after an operation that succeeds, and what the operation needs for it. -/
inductive Performs
    (predicate : Predicate Value)
    (collection : Collection Value) :
    Operation Value → Collection Value → Prop where
  | insert {value : Value} :
      predicate.check value = .ok () →
      Performs predicate collection (.insert value)
        (collection ++ [{ value := value, provenance := .checked }])
  | insertTrusted {value : Value} :
      Performs predicate collection (.insertTrusted value)
        (collection ++ [{ value := value, provenance := .trusted }])
  | duplicate {slot : Nat} {refined : Refined Value} :
      collection[slot]? = some refined →
      Performs predicate collection (.duplicate slot) (collection ++ [refined])
  | takeOut {slot : Nat} {refined : Refined Value} :
      collection[slot]? = some refined →
      Performs predicate collection (.takeOut slot) (collection.eraseIdx slot)
  | change {slot : Nat} {function : Value → Value} {refined : Refined Value} :
      collection[slot]? = some refined →
      predicate.check (function refined.value) = .ok () →
      Performs predicate collection (.change slot function)
        (collection.set slot { value := function refined.value, provenance := .checked })
  | sort :
      Domain.isTotal Value = true →
      Performs predicate collection .sort (sorted collection)
  | decode {reader : Reader Value} {text rest : List Char} {value : Value} :
      reader (Json.skipBlank text) = some (value, rest) →
      predicate.check value = .ok () →
      (Json.skipBlank rest).isEmpty = true →
      Performs predicate collection (.decode reader text)
        (collection ++ [{ value := value, provenance := .checked }])

/-- When an operation comes to a value that the predicate refuses, with what it says. -/
inductive Refuses
    (predicate : Predicate Value)
    (collection : Collection Value) :
    Operation Value → String → Prop where
  | insert {value : Value} {message : String} :
      predicate.check value = .error message →
      Refuses predicate collection (.insert value) message
  | change
      {slot : Nat}
      {function : Value → Value}
      {refined : Refined Value}
      {message : String} :
      collection[slot]? = some refined →
      predicate.check (function refined.value) = .error message →
      Refuses predicate collection (.change slot function) message
  | decode
      {reader : Reader Value}
      {text rest : List Char}
      {value : Value}
      {message : String} :
      reader (Json.skipBlank text) = some (value, rest) →
      predicate.check value = .error message →
      Refuses predicate collection (.decode reader text) message

variable
  {collection after : Collection Value}
  {operation : Operation Value}

/-- An operation succeeds just where it is said to, with what it is said to give. -/
theorem perform_eq_ok_iff :
    perform predicate collection operation = .ok after ↔
      Performs predicate collection operation after := by
  cases operation with
  | insert value =>
      simp only [perform, bind_eq_ok_iff, pure_eq_ok_iff, accepted_eq_ok_iff,
        Refined.check_eq_ok_iff]
      constructor
      · rintro ⟨_, ⟨passed, rfl⟩, rfl⟩
        exact .insert passed
      · intro performs
        cases performs with
        | insert passed => exact ⟨_, ⟨passed, rfl⟩, rfl⟩
  | insertTrusted value =>
      simp only [perform, pure_eq_ok_iff, Refined.trust]
      constructor
      · rintro rfl
        exact .insertTrusted
      · intro performs
        cases performs with
        | insertTrusted => rfl
  | duplicate slot =>
      simp only [perform, bind_eq_ok_iff, pure_eq_ok_iff, slot?_eq_ok_iff]
      constructor
      · rintro ⟨_, found, rfl⟩
        exact .duplicate found
      · intro performs
        cases performs with
        | duplicate found => exact ⟨_, found, rfl⟩
  | takeOut slot =>
      simp only [perform, bind_eq_ok_iff, pure_eq_ok_iff, slot?_eq_ok_iff]
      constructor
      · rintro ⟨_, found, rfl⟩
        exact .takeOut found
      · intro performs
        cases performs with
        | takeOut found => exact ⟨_, found, rfl⟩
  | change slot function =>
      simp only [perform, bind_eq_ok_iff, pure_eq_ok_iff, slot?_eq_ok_iff, accepted_eq_ok_iff,
        Refined.tryMap, Refined.check_eq_ok_iff]
      constructor
      · rintro ⟨_, found, _, ⟨passed, rfl⟩, rfl⟩
        exact .change found passed
      · intro performs
        cases performs with
        | change found passed => exact ⟨_, found, _, ⟨passed, rfl⟩, rfl⟩
  | sort =>
      simp only [perform]
      split
      · case isTrue total =>
          rw [pure_eq_ok_iff]
          constructor
          · rintro rfl
            exact .sort total
          · intro performs
            cases performs with
            | sort => rfl
      · case isFalse notTotal =>
          constructor
          · intro performed
            cases performed
          · intro performs
            cases performs with
            | sort total => exact absurd total notTotal
  | decode reader text =>
      simp only [perform, bind_eq_ok_iff, pure_eq_ok_iff, decoded_eq_ok_iff,
        Refined.decode_eq_ok_iff]
      constructor
      · rintro ⟨_, ⟨value, rest, found, passed, ends, rfl⟩, rfl⟩
        exact .decode found passed ends
      · intro performs
        cases performs with
        | decode found passed ends => exact ⟨_, ⟨_, _, found, passed, ends, rfl⟩, rfl⟩

/-- What the predicate refuses fails with what the predicate says. -/
theorem Refuses.perform_eq
    {message : String}
    (refuses : Refuses predicate collection operation message) :
    perform predicate collection operation = .error (.refused message) := by
  cases refuses with
  | insert refused =>
      rw [← Refined.check_eq_error_iff, ← accepted_eq_refused_iff] at refused
      exact bind_eq_error_iff.mpr (.inl refused)
  | change found refused =>
      rw [← Refined.check_eq_error_iff, ← accepted_eq_refused_iff] at refused
      exact bind_eq_error_iff.mpr
        (.inr ⟨_, slot?_eq_ok_iff.mpr found, bind_eq_error_iff.mpr (.inl refused)⟩)
  | decode found refused =>
      have undecoded := decoded_eq_refused_iff.mpr
        (Refined.decode_eq_refused_iff.mpr ⟨_, _, found, refused⟩)
      exact bind_eq_error_iff.mpr (.inl undecoded)

/-- An operation that succeeds leaves all values what their provenance says. -/
theorem Performs.vouched
    {operations : List (Operation Value)}
    (performs : Performs predicate collection operation after)
    (isOne : operation ∈ operations)
    (vouched : ∀ refined ∈ collection, Vouched predicate operations refined) :
    ∀ refined ∈ after, Vouched predicate operations refined := by
  cases performs with
  | insert passed => exact vouched_append vouched passed
  | insertTrusted => exact vouched_append vouched isOne
  | duplicate found => exact vouched_append vouched (vouched _ (List.mem_of_getElem? found))
  | takeOut found =>
      intro refined member
      exact vouched refined (List.mem_of_mem_eraseIdx member)
  | change found passed =>
      intro refined member
      rcases List.mem_or_eq_of_mem_set member with old | rfl
      · exact vouched refined old
      · exact passed
  | sort total =>
      intro refined member
      exact vouched refined ((List.mergeSort_perm collection precedes).mem_iff.mp member)
  | decode found passed ends => exact vouched_append vouched passed

/-- The collection after an operation, whether it succeeds or fails. -/
def settle
    (predicate : Predicate Value)
    (collection : Collection Value)
    (operation : Operation Value) :
    Collection Value :=
  match perform predicate collection operation with
  | .ok after => after
  | .error _ => collection

/-- The collection that a run of operations leads to, from the empty one. -/
def outcome
    (predicate : Predicate Value)
    (operations : List (Operation Value)) :
    Collection Value :=
  operations.foldl (settle predicate) []

theorem settle_of_error
    {failure : StepError}
    (failed : perform predicate collection operation = .error failure) :
    settle predicate collection operation = collection := by
  rw [settle, failed]

/-- A further operation of a run changes what the run led to. -/
theorem outcome_append
    (operations : List (Operation Value)) :
    outcome predicate (operations ++ [operation]) =
      settle predicate (outcome predicate operations) operation := by
  rw [outcome, List.foldl_append]
  rfl

/-- So does one that may fail. -/
theorem settle_vouched
    {operations : List (Operation Value)}
    (isOne : operation ∈ operations)
    (vouched : ∀ refined ∈ collection, Vouched predicate operations refined) :
    ∀ refined ∈ settle predicate collection operation, Vouched predicate operations refined := by
  cases performed : perform predicate collection operation with
  | error failure =>
      rw [settle_of_error performed]
      exact vouched
  | ok after =>
      rw [settle, performed]
      exact (perform_eq_ok_iff.mp performed).vouched isOne vouched

/-- And so does every run of operations. -/
theorem foldl_settle_vouched
    {operations rest : List (Operation Value)}
    (areSome : rest ⊆ operations)
    (vouched : ∀ refined ∈ collection, Vouched predicate operations refined) :
    ∀ refined ∈ rest.foldl (settle predicate) collection,
      Vouched predicate operations refined := by
  -- The run is taken apart while the list that vouches for trusted values stays whole.
  induction rest generalizing collection with
  | nil => exact vouched
  | cons operation rest restVouched =>
      obtain ⟨isOne, restAreSome⟩ := List.cons_subset.mp areSome
      exact restVouched restAreSome (settle_vouched isOne vouched)

theorem outcome_vouched
    (predicate : Predicate Value)
    (operations : List (Operation Value)) :
    ∀ refined ∈ outcome predicate operations, Vouched predicate operations refined :=
  foldl_settle_vouched (List.Subset.refl operations) (by simp)

/--
Whatever operations were run on a collection that began empty: its checked values are
accepted by the predicate, and its trusted ones were inserted on trust.  A further operation
succeeds where it is said to, with what it is said to give.  One that comes to a value that
the predicate refuses fails with what the predicate says, and the collection is the same
afterwards.  If nothing was inserted on trust, the predicate accepts every value.
-/
theorem outcome_accepted
    (predicate : Predicate Value)
    (operations : List (Operation Value)) :
    (∀ refined ∈ outcome predicate operations,
      (refined.provenance = .checked → predicate.check refined.value = .ok ()) ∧
        (refined.provenance = .trusted → .insertTrusted refined.value ∈ operations)) ∧
      (∀ operation after,
        Performs predicate (outcome predicate operations) operation after →
          perform predicate (outcome predicate operations) operation = .ok after ∧
            outcome predicate (operations ++ [operation]) = after) ∧
      (∀ operation message,
        Refuses predicate (outcome predicate operations) operation message →
          perform predicate (outcome predicate operations) operation =
              .error (.refused message) ∧
            outcome predicate (operations ++ [operation]) = outcome predicate operations) ∧
      ((∀ value, .insertTrusted value ∉ operations) →
        ∀ refined ∈ outcome predicate operations, predicate.check refined.value = .ok ()) := by
  have vouched := outcome_vouched predicate operations
  refine ⟨?_, ?_, ?_, ?_⟩
  · rintro ⟨value, provenance⟩ member
    cases provenance with
    | checked => exact ⟨fun _ => vouched _ member, nofun⟩
    | trusted => exact ⟨nofun, fun _ => vouched _ member⟩
  · intro operation after performs
    have succeeded := perform_eq_ok_iff.mpr performs
    rw [outcome_append, settle, succeeded]
    exact ⟨rfl, rfl⟩
  · intro operation message refuses
    have failed := refuses.perform_eq
    rw [outcome_append, settle_of_error failed]
    exact ⟨failed, rfl⟩
  · rintro untrusting ⟨value, provenance⟩ member
    cases provenance with
    | checked => exact vouched _ member
    | trusted => exact absurd (vouched _ member) (untrusting value)

/--
A trusted odd number stays what it is, cannot be made another odd number, and is a checked one
once it was made even.
-/
theorem outcome_accepted_even :
    let predicate : Predicate (Whole .i32) := Predicate.even "Even"
    let three : Whole .i32 := ⟨3, by decide⟩
    let four : Whole .i32 := ⟨4, by decide⟩
    let six : Whole .i32 := ⟨6, by decide⟩
    let operations : List (Operation (Whole .i32)) :=
      [.insert four, .insertTrusted three, .insert three, .duplicate 1]
    let state := outcome predicate operations
    state = [⟨four, .checked⟩, ⟨three, .trusted⟩, ⟨three, .trusted⟩] ∧
      Refuses predicate state (.change 1 (·.add four)) "value must be even" ∧
      perform predicate state (.change 1 (·.add four)) =
        .error (.refused "value must be even") ∧
      outcome predicate (operations ++ [.change 1 (·.add four)]) = state ∧
      outcome predicate (operations ++ [.change 2 (·.add three)]) =
        [⟨four, .checked⟩, ⟨three, .trusted⟩, ⟨six, .checked⟩] ∧
      ∀ refined ∈ outcome predicate [.insert four, .duplicate 0],
        predicate.check refined.value = .ok () := by
  intro predicate three four six operations state
  obtain ⟨_, performed, refused, _⟩ := outcome_accepted predicate operations
  have reached : state = [⟨four, .checked⟩, ⟨three, .trusted⟩, ⟨three, .trusted⟩] := by
    decide +kernel
  have first : state[1]? = some ⟨three, .trusted⟩ := by rw [reached]; rfl
  have second : state[2]? = some ⟨three, .trusted⟩ := by rw [reached]; rfl
  have refuses : Refuses predicate state (.change 1 (·.add four)) "value must be even" :=
    .change first (by decide +kernel)
  have performs : Performs predicate state (.change 2 (·.add three)) _ :=
    .change second (by decide +kernel)
  obtain ⟨failed, unchanged⟩ := refused _ _ refuses
  obtain ⟨_, changed⟩ := performed _ _ performs
  have sum : state.set 2 ⟨three.add three, .checked⟩ =
      [⟨four, .checked⟩, ⟨three, .trusted⟩, ⟨six, .checked⟩] := by
    decide +kernel
  rw [sum] at changed
  refine ⟨reached, refuses, failed, unchanged, changed, ?_⟩
  exact (outcome_accepted predicate [.insert four, .duplicate 0]).2.2.2 (by simp)

/-- A step changes a collection as some operation does, on trust only where the step says so. -/
theorem step_performs
    {action : Step}
    {answer : Answer}
    (stepped : step predicate collection action = .ok (answer, after)) :
    after = collection ∨
      ∃ operation,
        perform predicate collection operation = .ok after ∧
          ∀ value, operation = .insertTrusted value → ∃ text, action = .insertTrusted text := by
  cases action with
  | insert text =>
      simp only [step, bind_eq_ok_iff, pure_eq_ok_iff, Prod.mk.injEq] at stepped
      obtain ⟨_, _, _, performed, _, rfl⟩ := stepped
      exact .inr ⟨_, performed, nofun⟩
  | insertTrusted text =>
      simp only [step, bind_eq_ok_iff, pure_eq_ok_iff, Prod.mk.injEq] at stepped
      obtain ⟨_, _, _, performed, _, rfl⟩ := stepped
      exact .inr ⟨_, performed, fun _ _ => ⟨text, rfl⟩⟩
  | duplicate slot =>
      simp only [step, bind_eq_ok_iff, pure_eq_ok_iff, Prod.mk.injEq] at stepped
      obtain ⟨_, performed, _, rfl⟩ := stepped
      exact .inr ⟨_, performed, nofun⟩
  | takeOut slot =>
      simp only [step, bind_eq_ok_iff, pure_eq_ok_iff, Prod.mk.injEq] at stepped
      obtain ⟨_, _, _, performed, _, rfl⟩ := stepped
      exact .inr ⟨_, performed, nofun⟩
  | change slot name argument =>
      simp only [step, bind_eq_ok_iff, pure_eq_ok_iff, Prod.mk.injEq] at stepped
      obtain ⟨_, _, _, _, _, _, _, performed, _, rfl⟩ := stepped
      exact .inr ⟨_, performed, nofun⟩
  | sort =>
      simp only [step, bind_eq_ok_iff, pure_eq_ok_iff, Prod.mk.injEq] at stepped
      obtain ⟨_, performed, _, rfl⟩ := stepped
      exact .inr ⟨_, performed, nofun⟩
  | decode text =>
      simp only [step] at stepped
      split at stepped
      · simp only [bind_eq_ok_iff, pure_eq_ok_iff, Prod.mk.injEq] at stepped
        obtain ⟨_, performed, _, rfl⟩ := stepped
        exact .inr ⟨_, performed, nofun⟩
      · cases stepped
  | describe =>
      cases stepped
      exact .inl rfl
  | get slot =>
      simp only [step, bind_eq_ok_iff, pure_eq_ok_iff, Prod.mk.injEq] at stepped
      obtain ⟨_, _, _, rfl⟩ := stepped
      exact .inl rfl
  | compare left right =>
      simp only [step, bind_eq_ok_iff, pure_eq_ok_iff, Prod.mk.injEq] at stepped
      obtain ⟨_, _, _, _, _, rfl⟩ := stepped
      exact .inl rfl
  | countDistinct =>
      simp only [step] at stepped
      split at stepped
      · cases stepped
        exact .inl rfl
      · cases stepped
  | write slot template =>
      simp only [step, bind_eq_ok_iff] at stepped
      obtain ⟨_, _, written⟩ := stepped
      split at written
      · cases written
        exact .inl rfl
      · cases written
  | encode slot =>
      simp only [step, bind_eq_ok_iff, pure_eq_ok_iff, Prod.mk.injEq] at stepped
      obtain ⟨_, _, _, rfl⟩ := stepped
      exact .inl rfl

/-- Whether a step succeeds or fails, it leads where a run of at most one operation does. -/
theorem exists_operations_next
    (predicate : Predicate Value)
    (collection : Collection Value)
    (action : Step) :
    ∃ operations : List (Operation Value),
      next predicate collection action = operations.foldl (settle predicate) collection ∧
        ∀ value, .insertTrusted value ∈ operations → ∃ text, action = .insertTrusted text := by
  cases stepped : step predicate collection action with
  | error failure =>
      refine ⟨[], ?_, by simp⟩
      rw [next, stepped]
      rfl
  | ok reply =>
      obtain ⟨answer, after⟩ := reply
      rw [next, stepped]
      rcases step_performs stepped with rfl | ⟨operation, performed, onTrust⟩
      · exact ⟨[], rfl, by simp⟩
      · refine ⟨[operation], ?_, ?_⟩
        · rw [List.foldl_cons, List.foldl_nil, settle, performed]
        · intro value member
          exact onTrust value (List.mem_singleton.mp member).symm

/-- Every collection that a run of steps passes through is one that operations lead to. -/
theorem exists_operations_run
    {steps : List Step}
    {reached : Except StepError Answer × Collection Value}
    (member : reached ∈ run predicate collection steps) :
    ∃ operations : List (Operation Value),
      reached.2 = operations.foldl (settle predicate) collection ∧
        ∀ value, .insertTrusted value ∈ operations → ∃ text, .insertTrusted text ∈ steps := by
  -- The operations of the first step lead to where the operations of the others begin.
  induction steps generalizing collection with
  | nil => cases member
  | cons action rest restReached =>
      obtain ⟨first, firstShape, firstTrust⟩ := exists_operations_next predicate collection action
      rcases List.mem_cons.mp member with rfl | later
      · refine ⟨first, firstShape, ?_⟩
        intro value isFirst
        obtain ⟨text, rfl⟩ := firstTrust value isFirst
        exact ⟨text, List.mem_cons_self⟩
      · obtain ⟨others, shape, trust⟩ := restReached later
        refine ⟨first ++ others, ?_, ?_⟩
        · rw [List.foldl_append, ← firstShape, shape]
        · intro value isSome
          rcases List.mem_append.mp isSome with isFirst | isOther
          · obtain ⟨text, rfl⟩ := firstTrust value isFirst
            exact ⟨text, List.mem_cons_self⟩
          · obtain ⟨text, inRest⟩ := trust value isOther
            exact ⟨text, List.mem_cons_of_mem _ inRest⟩

/-- A run of steps that inserts nothing on trust passes through accepted values only. -/
theorem run_accepted
    {steps : List Step}
    (untrusting : ∀ text, .insertTrusted text ∉ steps)
    {reached : Except StepError Answer × Collection Value}
    (member : reached ∈ run predicate [] steps) :
    ∀ refined ∈ reached.2, predicate.check refined.value = .ok () := by
  obtain ⟨operations, shape, trust⟩ := exists_operations_run member
  rintro ⟨value, provenance⟩ isReached
  rw [shape] at isReached
  have vouched := outcome_vouched predicate operations _ isReached
  cases provenance with
  | checked => exact vouched
  | trusted =>
      obtain ⟨text, isStep⟩ := trust value vouched
      exact absurd isStep (untrusting text)

end Collection

end CheckedLiterals
