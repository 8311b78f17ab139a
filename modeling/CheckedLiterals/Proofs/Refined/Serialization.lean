import CheckedLiterals.Proofs.Check.Stages
import CheckedLiterals.Proofs.Refined.Layer

namespace CheckedLiterals

/-!
# Refined values through a format and back

In any format a refined value is written as its bare value, and read as its bare value and then
checked.  So what is read was accepted by the predicate, whatever the input holds, and what a format
restores of the bare values it restores of those refined values that the predicate accepts, and of
no others.  A layer goes through its fields, in whatever order the format reads them.

A format is any functions of the right types.  That it restores a value is a hypothesis where it is
needed, and nothing else is known of it.
-/

/-- How a refined value is read in a format goes by how its bare value is. -/
structure Revalidates
    {Value Input Failure : Type}
    (custom : String → Failure)
    (predicate : Predicate Value)
    (decode : Input → Except Failure (Value × Input))
    (checkedDecode : Input → Except Failure (Refined Value × Input)) :
    Prop where
  succeeds_iff :
    ∀ input refined rest,
      checkedDecode input = .ok (refined, rest) ↔
        ∃ value,
          decode input = .ok (value, rest) ∧
            predicate.check value = .ok () ∧ refined = .checked value
  refuses :
    ∀ input value rest message,
      decode input = .ok (value, rest) →
        predicate.check value = .error message →
        checkedDecode input = .error (custom message)
  passesOn :
    ∀ input failure, decode input = .error failure → checkedDecode input = .error failure

namespace Refined

variable {Value Input Failure : Type}

theorem revalidates
    (custom : String → Failure)
    (predicate : Predicate Value)
    (decode : Input → Except Failure (Value × Input)) :
    Revalidates custom predicate decode (deserialize custom predicate decode) := by
  constructor
  · intro input refined rest
    rw [deserialize]
    cases decode input with
    | error failure => simp
    | ok found =>
        obtain ⟨value, behind⟩ := found
        simp only [check]
        cases accepted : predicate.check value with
        | error message => simp [accepted]
        | ok =>
            constructor
            · rintro ⟨⟩
              exact ⟨value, rfl, accepted, rfl⟩
            · rintro ⟨_, ⟨⟩, _, rfl⟩
              rfl
  · intro input value rest message decoded refused
    rw [deserialize, decoded]
    simp only [check, refused]
  · intro input failure failed
    rw [deserialize, failed]

/-- What has been deserialized was accepted, so it is no value that the predicate refuses. -/
theorem ne_of_deserialize
    {custom : String → Failure}
    {predicate : Predicate Value}
    {decode : Input → Except Failure (Value × Input)}
    {input rest : Input}
    {restored : Refined Value}
    {value : Value}
    (read : deserialize custom predicate decode input = .ok (restored, rest))
    (refused : predicate.check value ≠ .ok ()) :
    restored.value ≠ value := by
  rintro rfl
  obtain ⟨found, _, accepted, rfl⟩ :=
    ((revalidates custom predicate decode).succeeds_iff _ _ _).mp read
  exact refused accepted

end Refined

namespace Layer

theorem namePredicate_check_iff {name : String} :
    namePredicate.check name = .ok () ↔ name ≠ "" := by
  simp [namePredicate, Predicate.nonEmpty]

/-- Whether an opacity is a number from zero to one. -/
def IsOpacity (opacity : Binary64) : Prop :=
  ∃ exact, opacity.extended? = some exact ∧ 0 ≤ exact ∧ exact ≤ 1

theorem opacityPredicate_check_iff {opacity : Binary64} :
    opacityPredicate.check opacity = .ok () ↔ IsOpacity opacity := by
  have words := (words_mapError (Kind.judgeValue .zeroToOne opacity)).1
  rw [opacityPredicate, Kind.predicate_check, words, IsOpacity]
  by_cases isNumber : opacity = .nan
  · subst isNumber
    simp [Kind.judgeValue_nan_eq_ok_iff, Binary.extended?]
  · obtain ⟨exact, isExact⟩ := Binary.exists_extended isNumber
    rw [Kind.judgeValue_binary_eq_rule .zeroToOne isExact, isExact]
    simp only [Kind.rule, Kind.verdict, Option.some.injEq, exists_eq_left', Int.cast_one,
      Int.cast_zero, EReal.coe_one, EReal.coe_zero]
    by_cases above : 1 < exact
    · simp [above]
    · by_cases below : exact < 0
      · simp [above, below]
      · simp [above, below, not_lt.mp above, not_lt.mp below]

theorem passes_iff {layer : Layer String Binary64} :
    layer.Passes namePredicate opacityPredicate ↔ layer.name ≠ "" ∧ IsOpacity layer.opacity := by
  rw [Passes, namePredicate_check_iff, opacityPredicate_check_iff]

end Layer

/--
In any format, a refined value is read just where its bare value is read and passes the predicate,
which is then what it holds; what the predicate says otherwise, and what keeps the bare value from
being read, is passed on.  A refined value is written as its bare value.  So if the format restores
the bare value, the refined one is restored where the predicate accepts it and refused with what the
predicate says where it does not; and a value that the predicate refuses is never what is read.

The same holds of layers, in whatever order a format asks for their fields: a layer is read just
where the bare one is and both predicates accept, so its name is not empty and its opacity a number
from zero to one.  A value that is refused is refused before anything behind it is read.  A layer is
written as the bare one, and restored as checked where the predicates accept it, and only there.
-/
theorem Refined.serialization_revalidates :
    (∀ {Value Input Failure : Type} (custom : String → Failure) (predicate : Predicate Value)
        (decode : Input → Except Failure (Value × Input)),
        Revalidates custom predicate decode (deserialize custom predicate decode)) ∧
      (∀ {Value Input Failure : Type} (custom : String → Failure) (predicate : Predicate Value)
          (decode : Input → Except Failure (Value × Input)) (encode : Value → Input)
          (refined : Refined Value),
          refined.serialize encode = encode refined.value ∧
            (∀ rest,
              decode (encode refined.value) = .ok (refined.value, rest) →
                (predicate.check refined.value = .ok () →
                  deserialize custom predicate decode (refined.serialize encode) =
                    .ok (.checked refined.value, rest)) ∧
                ∀ message,
                  predicate.check refined.value = .error message →
                    deserialize custom predicate decode (refined.serialize encode) =
                      .error (custom message)) ∧
            (predicate.check refined.value ≠ .ok () →
              ∀ restored rest,
                deserialize custom predicate decode (refined.serialize encode) =
                    .ok (restored, rest) →
                  restored.value ≠ refined.value)) ∧
      (∀ {Input Failure Name Opacity : Type} (custom : String → Failure)
          (namePredicate : Predicate Name) (opacityPredicate : Predicate Opacity)
          (plan : Input → Layer.Plan Input Failure false false)
          (readerOfName : Input → Except Failure (Name × Input))
          (readerOfOpacity : Input → Except Failure (Opacity × Input)),
          Layer.Revalidates custom namePredicate opacityPredicate
            (Layer.deserialize plan readerOfName readerOfOpacity)
            (Layer.deserialize plan (deserialize custom namePredicate readerOfName)
              (deserialize custom opacityPredicate readerOfOpacity))) ∧
      (∀ {Input Failure Name Opacity : Type} (custom : String → Failure)
          (namePredicate : Predicate Name) (opacityPredicate : Predicate Opacity)
          (plan : Input → Layer.Plan Input Failure false false)
          (readerOfName : Input → Except Failure (Name × Input))
          (readerOfOpacity : Input → Except Failure (Opacity × Input))
          (record : Input → Input → Input) (encodeName : Name → Input)
          (encodeOpacity : Opacity → Input) (layer : Layer (Refined Name) (Refined Opacity)),
          let encoded := layer.serialize record (serialize encodeName) (serialize encodeOpacity)
          let decode := Layer.deserialize plan (deserialize custom namePredicate readerOfName)
            (deserialize custom opacityPredicate readerOfOpacity)
          encoded = layer.bare.serialize record encodeName encodeOpacity ∧
            ∀ rest,
              Layer.deserialize plan readerOfName readerOfOpacity encoded =
                  .ok (layer.bare, rest) →
                (layer.bare.Passes namePredicate opacityPredicate →
                  decode encoded = .ok (layer.bare.checked, rest)) ∧
                (¬layer.bare.Passes namePredicate opacityPredicate →
                  ∃ message,
                    layer.bare.Refuses namePredicate opacityPredicate message ∧
                      decode encoded = .error (custom message))) ∧
      ∀ {Input Failure : Type} (custom : String → Failure)
        (plan : Input → Layer.Plan Input Failure false false)
        (readerOfName : Input → Except Failure (String × Input))
        (readerOfOpacity : Input → Except Failure (Binary64 × Input)) (input : Input)
        (layer : RefinedLayer) (rest : Input),
        Layer.deserialize plan (deserialize custom Layer.namePredicate readerOfName)
            (deserialize custom Layer.opacityPredicate readerOfOpacity) input =
            .ok (layer, rest) ↔
          ∃ bare,
            Layer.deserialize plan readerOfName readerOfOpacity input = .ok (bare, rest) ∧
              (bare.name ≠ "" ∧ Layer.IsOpacity bare.opacity) ∧ layer = bare.checked := by
  refine ⟨revalidates, ?_, Layer.revalidates, ?_, ?_⟩
  · intro Value Input Failure custom predicate decode encode refined
    have deserialized := revalidates custom predicate decode
    refine ⟨rfl, fun rest restored => ⟨fun accepted => ?_, ?_⟩, ?_⟩
    · exact (deserialized.succeeds_iff _ _ _).mpr ⟨_, restored, accepted, rfl⟩
    · exact fun message => deserialized.refuses _ _ _ _ restored
    · exact fun refused restored rest read => ne_of_deserialize read refused
  · intro Input Failure Name Opacity custom namePredicate opacityPredicate plan readerOfName
      readerOfOpacity record encodeName encodeOpacity layer encoded decode
    have deserialized := Layer.revalidates custom namePredicate opacityPredicate plan readerOfName
      readerOfOpacity
    refine ⟨rfl, fun rest restored => ⟨fun accepted => ?_, ?_⟩⟩
    · exact (deserialized.succeeds_iff _ _ _).mpr ⟨_, restored, accepted, rfl⟩
    · exact deserialized.refuses _ _ _ restored
  · intro Input Failure custom plan readerOfName readerOfOpacity input layer rest
    simp only [← Layer.passes_iff]
    exact (Layer.revalidates custom Layer.namePredicate Layer.opacityPredicate plan readerOfName
      readerOfOpacity).succeeds_iff input layer rest

/-- Halfway between the bounds of opacities. -/
def Layer.half : Binary64 :=
  Binary.ofDecimal .binary64 false 5 (-1)

/-- A layer with a name, and one that was given none on trust. -/
def Layer.ofName (name : String) : RefinedLayer where
  name :=
    .trust name
  opacity :=
    .trust half

/-- Trusted values are restored as checked ones, if they are such as a predicate accepts. -/
theorem Refined.serialization_revalidates_trusted :
    let three : Whole .i32 := ⟨3, by decide⟩
    let positive : Predicate (Whole .i32) := Kind.predicate .positive
    deserialize DecodeError.refused Layer.namePredicate Text.read?.decoder
        ((trust "").serialize Domain.encode) =
        .error (.refused "string cannot be empty") ∧
      deserialize DecodeError.refused positive (Whole.read? .i32).decoder
          ((trust three).serialize Domain.encode) =
        .ok (checked three, []) ∧
      (∀ restored rest,
        deserialize DecodeError.refused positive (Whole.read? .i32).decoder
            ((trust three.neg).serialize Domain.encode) =
            .ok (restored, rest) →
          restored.value ≠ three.neg) ∧
      Layer.decoder (Layer.ofName "bg").encode.toList =
        .ok ((Layer.ofName "bg").bare.checked, []) ∧
      ∃ message, Layer.decoder (Layer.ofName "").encode.toList = .error (.refused message) := by
  intro three positive
  obtain ⟨_, anyFormat, _, layers, _⟩ := serialization_revalidates
  obtain ⟨_, unnamed, _⟩ := anyFormat DecodeError.refused Layer.namePredicate
    Text.read?.decoder Domain.encode (trust "")
  obtain ⟨_, number, _⟩ := anyFormat DecodeError.refused positive
    (Whole.read? .i32).decoder Domain.encode (trust three)
  obtain ⟨_, _, negative⟩ := anyFormat DecodeError.refused positive
    (Whole.read? .i32).decoder Domain.encode (trust three.neg)
  have format := fun layer => layers DecodeError.refused Layer.namePredicate Layer.opacityPredicate
    Layer.Plan.ofText Text.read?.decoder (Binary.read? .binary64).decoder Layer.record
    Domain.encode Domain.encode layer
  obtain ⟨_, named⟩ := format (Layer.ofName "bg")
  obtain ⟨_, nameless⟩ := format (Layer.ofName "")
  have accepted : (Layer.ofName "bg").bare.Passes Layer.namePredicate Layer.opacityPredicate :=
    ⟨by decide +kernel, by decide +kernel⟩
  have refused :
      ¬(Layer.ofName "").bare.Passes Layer.namePredicate Layer.opacityPredicate := fun passes =>
    Layer.namePredicate_check_iff.mp passes.1 rfl
  refine ⟨(unnamed [] rfl).2 _ (by decide +kernel), (number [] ?_).1 (by decide +kernel),
    negative (by decide +kernel), ?_, ?_⟩
  · decide +kernel
  · rw [Layer.encode, String.toList_ofList]
    exact (named [] (by decide +kernel)).1 accepted
  · rw [Layer.encode, String.toList_ofList]
    obtain ⟨message, _, failed⟩ := (nameless [] (by decide +kernel)).2 refused
    exact ⟨message, failed⟩

end CheckedLiterals
