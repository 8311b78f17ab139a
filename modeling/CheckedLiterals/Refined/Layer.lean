import CheckedLiterals.Json.Skip
import CheckedLiterals.Refined.Domain

namespace CheckedLiterals

/-!
# Layers

A record of refined fields: a name that is not empty and an opacity between zero
and one.  How a record is laid out is up to the format, which is a parameter here:
it plans which field is read next and from where, and each field is read by the
reader of its own type.  What is wrong first is reported, and a predicate is asked
as soon as its value has been read.

In JSON a layer is an object, with its fields in any order and unknown fields
passed over, or a list of the two values.
-/

/-- A named layer with an opacity, which are refined values or bare ones. -/
structure Layer (Name Opacity : Type) where
  name : Name
  opacity : Opacity
  deriving Repr, DecidableEq

/-- A layer of refined values. -/
abbrev RefinedLayer := Layer (Refined String) (Refined Binary64)

namespace Layer

/-- The predicate of names. -/
def namePredicate : Predicate String :=
  Predicate.nonEmpty String.toList

/-- The predicate of opacities. -/
def opacityPredicate : Predicate Binary64 :=
  Kind.predicate .zeroToOne

/-- The value of a field, if the field has been read. -/
inductive Slot (Value : Type) : Bool → Type where
  | empty : Slot Value false
  | filled (value : Value) : Slot Value true

/--
How a format reads a layer, given which of the fields have been read: it asks for a field that
has not, and goes on from where the reader of the field stops, or it gives up.  It is done only
when both fields have been read.
-/
inductive Plan (Input Failure : Type) : Bool → Bool → Type where
  | fail
      {hasName hasOpacity : Bool}
      (failure : Failure) :
      Plan Input Failure hasName hasOpacity
  | readName
      {hasOpacity : Bool}
      (input : Input)
      (next : Input → Plan Input Failure true hasOpacity) :
      Plan Input Failure false hasOpacity
  | readOpacity
      {hasName : Bool}
      (input : Input)
      (next : Input → Plan Input Failure hasName true) :
      Plan Input Failure hasName false
  | done
      (rest : Input) :
      Plan Input Failure true true

namespace Plan

section Running

variable
  {Input Failure Name Opacity : Type}
  (readerOfName : Input → Except Failure (Name × Input))
  (readerOfOpacity : Input → Except Failure (Opacity × Input))

/-- Read a layer by a plan with the readers of the fields; where one of them fails, reading ends. -/
def run
    {hasName hasOpacity : Bool} :
    Plan Input Failure hasName hasOpacity →
      Slot Name hasName →
      Slot Opacity hasOpacity →
      Except Failure (Layer Name Opacity × Input)
  | .fail failure, _, _ => .error failure
  | .readName input next, _, opacity =>
      match readerOfName input with
      | .error failure => .error failure
      | .ok (name, rest) => run (next rest) (.filled name) opacity
  | .readOpacity input next, name, _ =>
      match readerOfOpacity input with
      | .error failure => .error failure
      | .ok (opacity, rest) => run (next rest) name (.filled opacity)
  | .done rest, .filled name, .filled opacity => .ok ({ name := name, opacity := opacity }, rest)

end Running

variable {hasName hasOpacity : Bool}

/-- Go on with what a step has found; if it has found nothing, the text is malformed. -/
def require
    {Found : Type}
    (found : Option Found)
    (next : Found → Plan (List Char) DecodeError hasName hasOpacity) :
    Plan (List Char) DecodeError hasName hasOpacity :=
  match found with
  | some found => next found
  | none => .fail .malformed

/-- End a layer, of which no field may lack. -/
def finish
    (rest : List Char) :
    {hasName hasOpacity : Bool} → Plan (List Char) DecodeError hasName hasOpacity
  | true, true => .done rest
  | true, false => .fail .malformed
  | false, _ => .fail .malformed

/-- Read the name behind its key, unless it has been read. -/
def readNameOnce
    (behindKey : List Char)
    (next : List Char → Plan (List Char) DecodeError true hasOpacity) :
    {hasName : Bool} → Plan (List Char) DecodeError hasName hasOpacity
  | true => .fail .malformed
  | false => require (Json.afterChar? ':' behindKey) fun text => .readName text next

/-- Read the opacity behind its key, unless it has been read. -/
def readOpacityOnce
    (behindKey : List Char)
    (next : List Char → Plan (List Char) DecodeError hasName true) :
    {hasOpacity : Bool} → Plan (List Char) DecodeError hasName hasOpacity
  | true => .fail .malformed
  | false => require (Json.afterChar? ':' behindKey) fun text => .readOpacity text next

/-- Go on behind a member: with the next one behind a comma, or with the brace behind the last. -/
def behindMember
    (next : List Char → Plan (List Char) DecodeError hasName hasOpacity)
    (behind : List Char) :
    Plan (List Char) DecodeError hasName hasOpacity :=
  match Json.afterChar? ',' behind with
  | some rest => next rest
  | none => require (Json.afterChar? '\x7d' behind) fun rest => finish rest

/-- Read the members of an object and the brace behind them, within a number of members. -/
def ofMembersWithin :
    Nat → {hasName hasOpacity : Bool} → List Char → Plan (List Char) DecodeError hasName hasOpacity
  | 0, _, _, _ => .fail .malformed
  | steps + 1, _, _, text =>
      require (Json.readString? (Json.skipBlank text)) fun (key, behindKey) =>
        if key = "name".toList then
          readNameOnce behindKey (behindMember (ofMembersWithin steps))
        else if key = "opacity".toList then
          readOpacityOnce behindKey (behindMember (ofMembersWithin steps))
        else
          require ((Json.afterChar? ':' behindKey).bind Json.skipValue?)
            (behindMember (ofMembersWithin steps))

/-- Read an object behind its opening brace. -/
def ofObject (text : List Char) : Plan (List Char) DecodeError false false :=
  match Json.afterChar? '\x7d' text with
  | some rest => finish rest
  | none => ofMembersWithin (text.length + 1) text

/-- Read a list of a name and an opacity behind its opening bracket. -/
def ofList (text : List Char) : Plan (List Char) DecodeError false false :=
  .readName text fun behindName =>
    require (Json.afterChar? ',' behindName) fun text =>
      .readOpacity text fun behindOpacity =>
        require (Json.afterChar? ']' behindOpacity) fun rest => finish rest

/-- Read a layer in JSON. -/
def ofText (text : List Char) : Plan (List Char) DecodeError false false :=
  match Json.skipBlank text with
  | '\x7b' :: rest => ofObject rest
  | '[' :: rest => ofList rest
  | _ => .fail .malformed

end Plan

section Format

variable {Input Failure Name Opacity : Type}

/-- Read a layer in a format, given how its fields are read. -/
def deserialize
    (plan : Input → Plan Input Failure false false)
    (readerOfName : Input → Except Failure (Name × Input))
    (readerOfOpacity : Input → Except Failure (Opacity × Input))
    (input : Input) :
    Except Failure (Layer Name Opacity × Input) :=
  (plan input).run readerOfName readerOfOpacity .empty .empty

/-- Write a layer in a format, given how its fields are written. -/
def serialize
    {Output : Type}
    (record : Output → Output → Output)
    (encodeName : Name → Output)
    (encodeOpacity : Opacity → Output)
    (layer : Layer Name Opacity) :
    Output :=
  record (encodeName layer.name) (encodeOpacity layer.opacity)

end Format

/-- Read a layer of refined values in JSON. -/
def decoder : Decoder RefinedLayer :=
  deserialize Plan.ofText (Refined.read namePredicate Text.read?)
    (Refined.read opacityPredicate (Binary.read? .binary64))

/-- Decode a text that holds a layer and nothing else but blanks. -/
def decode (text : String) : Except DecodeError RefinedLayer :=
  decoder.document text.toList

/-- A record in JSON, the name first. -/
def record (name opacity : List Char) : List Char :=
  "\x7b\"name\":".toList ++ name ++ ",\"opacity\":".toList ++ opacity ++ ['\x7d']

/-- A layer of refined values in JSON. -/
def encode (layer : RefinedLayer) : String :=
  String.ofList
    (layer.serialize record (Refined.serialize Domain.encode) (Refined.serialize Domain.encode))

end Layer

end CheckedLiterals
