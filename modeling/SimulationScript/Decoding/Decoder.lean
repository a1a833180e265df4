import SimulationScript.Decoding.Error
import SimulationScript.Json.Reader

/-! # Decoders

A decoder reads one type in two ways: from a JSON value, and straight from JSON text in a single
pass from left to right. Both ways of every decoder here accept the same values.
-/

namespace SimulationScript

/-- How values of a type are read. -/
structure Decoder (α : Type) where
  ofJson : Json → Except DecodeError α
  /-- Off the front of a text, with at most the given number of brackets open at a time. -/
  ofText : Nat → TextReader α

namespace Decoder

open Json

variable {α β : Type}

def ofDocument (decoder : Decoder α) (text : String) : Except TextFault α :=
  readWhole (decoder.ofText maxDepth) text.toList

/-- The fault of a text whose next value is of another kind than wanted. Scalars are read to their
    end first, so a fault inside one comes before the mismatch. -/
def otherKind : List Char → TextFault
  | [] => .truncated
  | c :: rest =>
    if c = '[' ∨ c = '{' then .mismatch
    else match readScalar (c :: rest) with
      | .ok _ => .mismatch
      | .error fault => fault

/-- What a text is worth whose value has been read but was refused. -/
def refused (result : Except DecodeError α) (rest : List Char) :
    Except TextFault (α × List Char) :=
  match result with
  | .ok value => .ok (value, rest)
  | .error _ => .error .mismatch

/-- A type whose values are written as scalars. -/
def scalar (decode : Json → Except DecodeError α) : Decoder α where
  ofJson := decode
  ofText _ cs :=
    match skipSpace cs with
    | [] => .error .truncated
    | c :: rest =>
      if c = '[' ∨ c = '{' then .error .mismatch
      else match readScalar (c :: rest) with
        | .error fault => .error fault
        | .ok (value, rest) => refused (decode value) rest

/-- A type that is told apart only once a whole value has been read. -/
def buffered (decode : Json → Except DecodeError α) : Decoder α where
  ofJson := decode
  ofText depth cs :=
    match read depth cs with
    | .error fault => .error fault
    | .ok (value, rest) => refused (decode value) rest

def any : Decoder Json :=
  buffered .ok

def text : Decoder String :=
  scalar fun
    | .str s => .ok s
    | other => .error (.wrongKind (.ofJson other) "a string")

def flag : Decoder Bool :=
  scalar fun
    | .bool b => .ok b
    | other => .error (.wrongKind (.ofJson other) "a boolean")

/-- Nothing but null. -/
def unit : Decoder Unit :=
  scalar fun
    | .null => .ok ()
    | other => .error (.wrongKind (.ofJson other) "unit")

/-- A natural number of 32 bits, written as an integer. -/
def natural32 : Decoder UInt32 :=
  scalar fun
    | .num (.integer n _) =>
      match natural32? n with
      | some word => .ok word
      | none => .error (.wrongValue (.integer n) "u32")
    | other => .error (.wrongKind (.ofJson other) "u32")

def integer64 : Decoder Int64 :=
  scalar fun
    | .num (.integer n _) =>
      if IsSignedWord n then .ok (Int64.ofInt n) else .error (.wrongValue (.integer n) "i64")
    | other => .error (.wrongKind (.ofJson other) "i64")

def nullable (decoder : Decoder α) : Decoder (Option α) where
  ofJson
    | .null => .ok none
    | value => (decoder.ofJson value).map some
  ofText depth cs :=
    match skipSpace cs with
    | 'n' :: rest => (expectWord ['u', 'l', 'l'] rest).map (none, ·)
    | here => (decoder.ofText depth here).map fun (value, rest) => (some value, rest)

def list (item : Decoder α) : Decoder (List α) where
  ofJson
    | .arr items => items.mapM item.ofJson
    | other => .error (.wrongKind (.ofJson other) "a sequence")
  ofText depth cs :=
    match skipSpace cs with
    | '[' :: rest =>
      match depth with
      | 0 => .error .malformed
      | depth + 1 => readItems (item.ofText depth) true rest
    | here => .error (otherKind here)

/-- A member of a map read from a JSON value. -/
def setMember (value : Decoder α) (map : OrderedMap α) (member : String × Json) :
    Except DecodeError (OrderedMap α) :=
  (value.ofJson member.2).map (map.set member.1)

def readEntry (value : TextReader α) (name : String) (map : OrderedMap α) :
    TextReader (OrderedMap α) := fun cs => do
  let cs ← skipMark ':' cs
  let (entry, rest) ← value cs
  return (map.set name entry, rest)

/-- An object whose members all have values of one type. -/
def map (value : Decoder α) : Decoder (OrderedMap α) where
  ofJson
    | .obj members => members.foldlM (setMember value) .empty
    | other => .error (.wrongKind (.ofJson other) "a map")
  ofText depth cs :=
    match skipSpace cs with
    | '{' :: rest =>
      match depth with
      | 0 => .error .malformed
      | depth + 1 => readMembers (readEntry (value.ofText depth)) .empty true rest
    | here => .error (otherKind here)

end Decoder

end SimulationScript
