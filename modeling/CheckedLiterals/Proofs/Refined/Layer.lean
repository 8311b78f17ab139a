import CheckedLiterals.Refined.Layer

namespace CheckedLiterals

/-!
# Layers of refined values and of bare ones

In any format a layer of refined values is read by the same plan as one of bare values, except that
each value is checked as soon as it has been read.  So the two readings go in step until a value is
refused.  Then the one of bare values goes on, and if it comes to a layer, the refused value is in
it, for a field that has been read is not read again.
-/

/-- A value that was accepted by its predicate. -/
def Refined.checked
    {Value : Type}
    (value : Value) :
    Refined Value where
  value :=
    value
  provenance :=
    .checked

namespace Layer

variable {Input Failure Name Opacity : Type}

/-- The layer with its values as checked ones. -/
def checked (layer : Layer Name Opacity) : Layer (Refined Name) (Refined Opacity) where
  name :=
    .checked layer.name
  opacity :=
    .checked layer.opacity

/-- The layer of the bare values. -/
def bare (layer : Layer (Refined Name) (Refined Opacity)) : Layer Name Opacity where
  name :=
    layer.name.value
  opacity :=
    layer.opacity.value

variable
  (custom : String → Failure)
  (namePredicate : Predicate Name)
  (opacityPredicate : Predicate Opacity)

/-- Whether the predicates accept the values of a layer. -/
def Passes (layer : Layer Name Opacity) : Prop :=
  namePredicate.check layer.name = .ok () ∧ opacityPredicate.check layer.opacity = .ok ()

/-- Whether a predicate refuses a value of a layer. -/
def Refuses (layer : Layer Name Opacity) (message : String) : Prop :=
  namePredicate.check layer.name = .error message ∨
    opacityPredicate.check layer.opacity = .error message

/-- Whether one of the two predicates says a message of some value. -/
def Says (message : String) : Prop :=
  (∃ name, namePredicate.check name = .error message) ∨
    ∃ opacity, opacityPredicate.check opacity = .error message

/--
How an outcome of reading refined values compares with that of reading bare ones: it is the layer
that the predicates accept, or it is the same failure, or a predicate has refused a value, which is
one of the bare layer unless the rest of the input fails.
-/
inductive Rechecked :
    Except Failure (Layer Name Opacity × Input) →
      Except Failure (Layer (Refined Name) (Refined Opacity) × Input) →
      Prop where
  | passed
      {layer : Layer Name Opacity}
      {rest : Input} :
      layer.Passes namePredicate opacityPredicate →
        Rechecked (.ok (layer, rest)) (.ok (layer.checked, rest))
  | refused
      {layer : Layer Name Opacity}
      {rest : Input}
      {message : String} :
      layer.Refuses namePredicate opacityPredicate message →
        Rechecked (.ok (layer, rest)) (.error (custom message))
  | failed
      {failure : Failure} :
      Rechecked (.error failure) (.error failure)
  | stopped
      {failure : Failure}
      {message : String} :
      Says namePredicate opacityPredicate message →
        Rechecked (.error failure) (.error (custom message))

namespace Slot

variable {Value : Type}

/-- The field with its value as a checked one. -/
def checked : {isRead : Bool} → Slot Value isRead → Slot (Refined Value) isRead
  | _, .empty => .empty
  | _, .filled value => .filled (.checked value)

/-- Whether the field, if it has been read, has the value. -/
def Holds (value : Value) : {isRead : Bool} → Slot Value isRead → Prop
  | _, .empty => True
  | _, .filled found => found = value

/-- Whether the predicate accepts the value of the field, if it has been read. -/
def Passes (predicate : Predicate Value) : {isRead : Bool} → Slot Value isRead → Prop
  | _, .empty => True
  | _, .filled value => predicate.check value = .ok ()

end Slot

namespace Plan

variable
  {hasName hasOpacity : Bool}
  (readerOfName : Input → Except Failure (Name × Input))
  (readerOfOpacity : Input → Except Failure (Opacity × Input))

/-- Reading on changes no field that has been read. -/
theorem holds_of_run
    (plan : Plan Input Failure hasName hasOpacity)
    {name : Slot Name hasName}
    {opacity : Slot Opacity hasOpacity}
    {layer : Layer Name Opacity}
    {rest : Input}
    (read : plan.run readerOfName readerOfOpacity name opacity = .ok (layer, rest)) :
    name.Holds layer.name ∧ opacity.Holds layer.opacity := by
  induction plan with
  | fail failure => cases read
  | readName input next later =>
      rw [run] at read
      split at read
      · cases read
      · cases name
        exact ⟨trivial, (later _ read).2⟩
  | readOpacity input next later =>
      rw [run] at read
      split at read
      · cases read
      · cases opacity
        exact ⟨(later _ read).1, trivial⟩
  | done behind =>
      cases name
      cases opacity
      cases read
      exact ⟨rfl, rfl⟩

variable {namePredicate opacityPredicate custom}

/-- Where a value is refused, the bare values are read on, and it is one of theirs at the end. -/
theorem rechecked_of_refused
    {outcome : Except Failure (Layer Name Opacity × Input)}
    {message : String}
    (said : Says namePredicate opacityPredicate message)
    (refuses : ∀ layer rest,
      outcome = .ok (layer, rest) → layer.Refuses namePredicate opacityPredicate message) :
    Rechecked custom namePredicate opacityPredicate outcome (.error (custom message)) := by
  cases outcome with
  | error failure => exact .stopped said
  | ok found => exact .refused (refuses _ _ rfl)

/-- By any plan the two readings go in step, by induction on what it asks for. -/
theorem rechecked_run
    (plan : Plan Input Failure hasName hasOpacity)
    {name : Slot Name hasName}
    {opacity : Slot Opacity hasOpacity}
    (namePasses : name.Passes namePredicate)
    (opacityPasses : opacity.Passes opacityPredicate) :
    Rechecked custom namePredicate opacityPredicate
      (plan.run readerOfName readerOfOpacity name opacity)
      (plan.run (Refined.deserialize custom namePredicate readerOfName)
        (Refined.deserialize custom opacityPredicate readerOfOpacity) name.checked
        opacity.checked) := by
  induction plan with
  | fail failure => exact .failed
  | readName input next later =>
      cases read : readerOfName input with
      | error failure =>
          simp only [run, Refined.deserialize, read]
          exact .failed
      | ok found =>
          obtain ⟨value, rest⟩ := found
          cases judged : namePredicate.check value with
          | ok =>
              simp only [run, Refined.deserialize, Refined.check, read, judged]
              exact later rest judged opacityPasses
          | error message =>
              simp only [run, Refined.deserialize, Refined.check, read, judged]
              refine rechecked_of_refused (.inl ⟨value, judged⟩) fun layer behind isRead => .inl ?_
              have held := (holds_of_run readerOfName readerOfOpacity _ isRead).1
              rw [← show value = layer.name from held]
              exact judged
  | readOpacity input next later =>
      cases read : readerOfOpacity input with
      | error failure =>
          simp only [run, Refined.deserialize, read]
          exact .failed
      | ok found =>
          obtain ⟨value, rest⟩ := found
          cases judged : opacityPredicate.check value with
          | ok =>
              simp only [run, Refined.deserialize, Refined.check, read, judged]
              exact later rest namePasses judged
          | error message =>
              simp only [run, Refined.deserialize, Refined.check, read, judged]
              refine rechecked_of_refused (.inr ⟨value, judged⟩) fun layer behind isRead => .inr ?_
              have held := (holds_of_run readerOfName readerOfOpacity _ isRead).2
              rw [← show value = layer.opacity from held]
              exact judged
  | done behind =>
      cases name
      cases opacity
      exact .passed ⟨namePasses, opacityPasses⟩

end Plan

/-- How a layer of refined values is read in a format goes by how a layer of bare ones is. -/
structure Revalidates
    (decode : Input → Except Failure (Layer Name Opacity × Input))
    (checkedDecode : Input → Except Failure (Layer (Refined Name) (Refined Opacity) × Input)) :
    Prop where
  succeeds_iff :
    ∀ input layer rest,
      checkedDecode input = .ok (layer, rest) ↔
        ∃ bare,
          decode input = .ok (bare, rest) ∧
            bare.Passes namePredicate opacityPredicate ∧ layer = bare.checked
  refuses :
    ∀ input bare rest,
      decode input = .ok (bare, rest) →
        ¬bare.Passes namePredicate opacityPredicate →
        ∃ message,
          bare.Refuses namePredicate opacityPredicate message ∧
            checkedDecode input = .error (custom message)
  passesOn :
    ∀ input failure,
      decode input = .error failure →
        checkedDecode input = .error failure ∨
          ∃ message,
            Says namePredicate opacityPredicate message ∧
              checkedDecode input = .error (custom message)

variable {custom namePredicate opacityPredicate}

theorem Refuses.not_passes
    {layer : Layer Name Opacity}
    {message : String}
    (refuses : layer.Refuses namePredicate opacityPredicate message) :
    ¬layer.Passes namePredicate opacityPredicate := by
  rintro ⟨nameAccepted, opacityAccepted⟩
  rcases refuses with refused | refused
  · rw [refused] at nameAccepted
    cases nameAccepted
  · rw [refused] at opacityAccepted
    cases opacityAccepted

/-- Readings that go in step on every input revalidate. -/
theorem Revalidates.of_rechecked
    {decode : Input → Except Failure (Layer Name Opacity × Input)}
    {checkedDecode : Input → Except Failure (Layer (Refined Name) (Refined Opacity) × Input)}
    (rechecked : ∀ input,
      Rechecked custom namePredicate opacityPredicate (decode input) (checkedDecode input)) :
    Revalidates custom namePredicate opacityPredicate decode checkedDecode := by
  constructor
  · intro input layer rest
    have outcome := rechecked input
    generalize decode input = bare at outcome ⊢
    generalize checkedDecode input = checked at outcome ⊢
    cases outcome with
    | @passed found behind passes =>
        constructor
        · rintro ⟨⟩
          exact ⟨found, rfl, passes, rfl⟩
        · rintro ⟨_, ⟨⟩, _, rfl⟩
          rfl
    | refused refuses =>
        constructor
        · rintro ⟨⟩
        · rintro ⟨_, ⟨⟩, passes, _⟩
          exact absurd passes refuses.not_passes
    | failed => simp
    | stopped => simp
  · intro input bare rest decoded refused
    have outcome := rechecked input
    rw [decoded] at outcome
    generalize checkedDecode input = checked at outcome ⊢
    cases outcome with
    | passed passes => exact absurd passes refused
    | refused refuses => exact ⟨_, refuses, rfl⟩
  · intro input failure failed
    have outcome := rechecked input
    rw [failed] at outcome
    generalize checkedDecode input = checked at outcome ⊢
    cases outcome with
    | failed => exact .inl rfl
    | stopped said => exact .inr ⟨_, said, rfl⟩

/-- Whatever the format and its plan are, layers of refined values are read as checked ones. -/
theorem revalidates
    (custom : String → Failure)
    (namePredicate : Predicate Name)
    (opacityPredicate : Predicate Opacity)
    (plan : Input → Plan Input Failure false false)
    (readerOfName : Input → Except Failure (Name × Input))
    (readerOfOpacity : Input → Except Failure (Opacity × Input)) :
    Revalidates custom namePredicate opacityPredicate
      (deserialize plan readerOfName readerOfOpacity)
      (deserialize plan (Refined.deserialize custom namePredicate readerOfName)
        (Refined.deserialize custom opacityPredicate readerOfOpacity)) :=
  .of_rechecked fun input =>
    (plan input).rechecked_run readerOfName readerOfOpacity trivial trivial

end Layer

end CheckedLiterals
