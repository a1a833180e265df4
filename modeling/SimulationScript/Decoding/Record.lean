import SimulationScript.Decoding.Decoder
import SimulationScript.Json.Skipper

/-! # Decoding records

Records are written as objects or as arrays of their fields. Fields of an object are decoded in
the order in which they stand, the first fault wins, unknown names are passed over, and what is
missing is reported last. In an array only fields with a default may be left out, at its end.
-/

namespace SimulationScript

/-- One field of a record that is filled into drafts of type `σ`. -/
structure Field (σ : Type) where
  name : String
  aliases : List String
  required : Bool
  /-- Whether a draft has the field already. -/
  isSet : σ → Bool
  ofJson : σ → Json → Except DecodeError σ
  ofText : Nat → σ → TextReader σ

namespace Field

variable {σ α : Type}

/-- The field that a decoder reads and that drafts keep as an optional value. -/
def of (name : String) (aliases : List String) (required : Bool) (get : σ → Option α)
    (put : σ → α → σ) (decoder : Decoder α) : Field σ where
  name := name
  aliases := aliases
  required := required
  isSet draft := (get draft).isSome
  ofJson draft value := (decoder.ofJson value).map (put draft)
  ofText depth draft cs :=
    (decoder.ofText depth cs).map fun (value, rest) => (put draft value, rest)

/-- A field without a default. -/
def needed (name : String) (get : σ → Option α) (put : σ → α → σ) (decoder : Decoder α) :
    Field σ :=
  of name [] true get put decoder

/-- A field that may be left out. -/
def optional (name : String) (get : σ → Option α) (put : σ → α → σ) (decoder : Decoder α)
    (aliases : List String := []) : Field σ :=
  of name aliases false get put decoder

/-- Whether a member of this name is the field. -/
def hasName (field : Field σ) (name : String) : Bool :=
  field.name == name || field.aliases.contains name

end Field

/-- A record type: its name, its fields in order, and how a draft of them becomes a record. -/
structure RecordType (σ α : Type) where
  name : String
  fields : List (Field σ)
  /-- The draft without any field. -/
  blank : σ
  /-- The finished record; fields left out take their defaults. -/
  build : σ → Except DecodeError α

namespace RecordType

open Json

variable {σ α : Type}

/-- The value of a field that has no default. -/
def require {β : Type} (name : String) (value : Option β) : Except DecodeError β :=
  match value with
  | some value => .ok value
  | none => .error (.missingField name)

def field? (type : RecordType σ α) (name : String) : Option (Field σ) :=
  type.fields.find? (·.hasName name)

def setMember (type : RecordType σ α) (draft : σ) (member : String × Json) :
    Except DecodeError σ :=
  match type.field? member.1 with
  | none => .ok draft
  | some field =>
    if field.isSet draft then .error (.duplicateField field.name)
    else field.ofJson draft member.2

/-- Fills in fields from the items of an array; `index` is the number of fields before these. -/
def setItems (type : RecordType σ α) :
    List (Field σ) → Nat → σ → List Json → Except DecodeError σ
  | [], _, draft, _ => .ok draft
  | field :: fields, index, draft, [] =>
    if field.required then .error (.tooShort index type.name type.fields.length)
    else setItems type fields (index + 1) draft []
  | field :: fields, index, draft, item :: items =>
    match field.ofJson draft item with
    | .error e => .error e
    | .ok draft => setItems type fields (index + 1) draft items

def ofJson (type : RecordType σ α) : Json → Except DecodeError α
  | .obj members => members.foldlM type.setMember type.blank >>= type.build
  | .arr items => do
    let draft ← type.setItems type.fields 0 type.blank items
    if type.fields.length < items.length then throw (.tooLong items.length)
    type.build draft
  | other => .error (.wrongKind (.ofJson other) ("struct " ++ type.name))

/-- Fills in one member of an object in a text. -/
def readMember (type : RecordType σ α) (depth : Nat) (name : String) (draft : σ) :
    TextReader σ := fun cs =>
  match type.field? name with
  | none => do
    let cs ← skipMark ':' cs
    let rest ← skipValue cs
    return (draft, rest)
  | some field =>
    if field.isSet draft then .error .mismatch
    else do
      let cs ← skipMark ':' cs
      field.ofText depth draft cs

/-- Fills in fields from the items of an array in a text, up to its closing bracket. -/
def readFields (depth : Nat) : List (Field σ) → Bool → σ → TextReader σ
  | [], _, draft, cs => (skipMark ']' cs).map (draft, ·)
  | field :: fields, first, draft, cs =>
    match nextItem first cs with
    | .error fault => .error fault
    | .ok (.closed rest) =>
      if (field :: fields).any (·.required) then .error .mismatch else .ok (draft, rest)
    | .ok (.next here) =>
      match field.ofText depth draft here with
      | .error fault => .error fault
      | .ok (draft, rest) => readFields depth fields false draft rest

/-- Reads a record off the front of a text. -/
def ofText (type : RecordType σ α) (depth : Nat) : TextReader α := fun cs =>
  match skipSpace cs with
  | '{' :: rest =>
    match depth with
    | 0 => .error .malformed
    | depth + 1 => do
      let (draft, rest) ← readMembers (type.readMember depth) type.blank true rest
      Decoder.refused (type.build draft) rest
  | '[' :: rest =>
    match depth with
    | 0 => .error .malformed
    | depth + 1 => do
      let (draft, rest) ← readFields depth type.fields true type.blank rest
      Decoder.refused (type.build draft) rest
  | here => .error (Decoder.otherKind here)

def decoder (type : RecordType σ α) : Decoder α :=
  ⟨type.ofJson, type.ofText⟩

end RecordType

end SimulationScript
