import SimulationScript.Json.Basic
import SimulationScript.Text.Shown

/-! # Decoding errors

Why a JSON value is not a value of the wanted type, and the one place where the wording is.
-/

namespace SimulationScript

/-- What a value looked like to the decoder that refused it. -/
inductive Found where
  | null
  | bool (value : Bool)
  | integer (value : Int)
  | float (value : Binary64)
  | str (value : String)
  | sequence
  | map
  deriving DecidableEq, Repr

namespace Found

/-- The outward form of a JSON value. -/
def ofJson : Json → Found
  | .null => .null
  | .bool b => .bool b
  | .num (.integer n _) => .integer n
  | .num (.float x) => .float x
  | .str s => .str s
  | .arr _ => .sequence
  | .obj _ => .map

/-- How a message names what was found. -/
def description : Found → String
  | null => "null"
  | bool true => "boolean `true`"
  | bool false => "boolean `false`"
  | integer n => "integer `" ++ String.ofList (Text.integer n) ++ "`"
  | float x => "floating point `" ++ String.ofList (Number.documentLayout.text x) ++ "`"
  | str s => "string " ++ String.ofList (Text.shown s.toList)
  | sequence => "sequence"
  | map => "map"

end Found

/-- Why a value cannot be decoded. -/
inductive DecodeError where
  | wrongKind (found : Found) (expected : String)
  /-- The value is of the right kind but outside the type. -/
  | wrongValue (found : Found) (expected : String)
  /-- A record lacks a field that has no default. -/
  | missingField (name : String)
  /-- A record has a field twice, possibly under two names. -/
  | duplicateField (name : String)
  /-- A text is none of the choices there are. -/
  | unknownChoice (found : String) (choices : List String)
  /-- A record written as an array ends before a field that has no default. -/
  | tooShort (length : Nat) (record : String) (fields : Nat)
  /-- A record written as an array has more items than fields. -/
  | tooLong (length : Nat)
  /-- None of several ways to read the value applies. -/
  | noAlternative (type : String)
  /-- A text that is not the numeral of a year. -/
  | invalidYear (text : String)
  deriving DecidableEq, Repr

namespace DecodeError

def count (n : Nat) : String :=
  String.ofList (Text.numeral n)

def message : DecodeError → String
  | wrongKind found expected => "invalid type: " ++ found.description ++ ", expected " ++ expected
  | wrongValue found expected => "invalid value: " ++ found.description ++ ", expected " ++ expected
  | missingField name => "missing field `" ++ name ++ "`"
  | duplicateField name => "duplicate field `" ++ name ++ "`"
  | unknownChoice found choices =>
    "unknown variant `" ++ found ++ "`, expected " ++
      " or ".intercalate (choices.map fun choice => "`" ++ choice ++ "`")
  | tooShort length record fields =>
    "invalid length " ++ count length ++ ", expected struct " ++ record ++ " with " ++
      count fields ++ (if fields = 1 then " element" else " elements")
  | tooLong length => "invalid length " ++ count length ++ ", expected fewer elements in array"
  | noAlternative type => "data did not match any variant of untagged enum " ++ type
  | invalidYear text => "invalid year '" ++ text ++ "'"

end DecodeError

end SimulationScript
