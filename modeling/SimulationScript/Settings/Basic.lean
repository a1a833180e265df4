import SimulationScript.Number.Basic
import SimulationScript.OrderedMap

/-! # Settings

A tree of settings gathered from several sources. Leaves are read leniently: numbers, truth values
and texts stand in for each other where that makes sense.
-/

namespace SimulationScript

/-- A tree of settings. -/
inductive Setting where
  | null
  | flag (value : Bool)
  | integer (value : Int)
  | decimal (value : Binary64)
  | infinite (negative : Bool)
  | undefined
  | text (value : String)
  | list (items : List Setting)
  | table (entries : List (String × Setting))
  deriving Repr, Inhabited

namespace Setting

/-- The entries of a table. Other settings have none. -/
def entries : Setting → List (String × Setting)
  | .table entries => entries
  | _ => []

/-- The items of a list. Other settings have none. -/
def items : Setting → List Setting
  | .list items => items
  | _ => []

/-- The decimal nearest to `± significand · 10 ^ exponent`, or infinity when that is too large. -/
def ofDecimal (negative : Bool) (significand : Nat) (exponent : Int) : Setting :=
  match Binary64.nearestDecimal? negative significand exponent with
  | some x => .decimal x
  | none => .infinite negative

/-- The words that count as yes. -/
def isYes (s : String) : Bool :=
  ["true", "on", "yes"].contains s.toLower

def isNo (s : String) : Bool :=
  ["false", "off", "no"].contains s.toLower

def within (low high n : Int) : Int :=
  max low (min n high)

def asText? : Setting → Option String
  | .flag true => some "true"
  | .flag false => some "false"
  | .integer n => some (String.ofList (Text.integer n))
  | .decimal x => some (String.ofList (Number.scriptLayout.text x))
  | .infinite negative => some (if negative then "-inf" else "inf")
  | .undefined => some "NaN"
  | .text s => some s
  | _ => none

def asFlag? : Setting → Option Bool
  | .flag b => some b
  | .integer n => some (n != 0)
  | .decimal x => some (!x.isZero)
  | .infinite _ => some true
  | .undefined => some true
  | .text s =>
    if isYes s || s == "1" then some true else if isNo s || s == "0" then some false else none
  | _ => none

/-- A leaf as an integer between two bounds. Decimals are rounded and cut off at the bounds;
    integers outside them are refused. `spelled?` reads the texts that are no word for yes or no. -/
def asInteger? (spelled? : List Char → Option Int) (low high : Int) : Setting → Option Int
  | .flag b => some (if b then 1 else 0)
  | .integer n => if low ≤ n ∧ n ≤ high then some n else none
  | .decimal x => some (within low high x.roundAway)
  | .infinite negative => some (if negative then low else high)
  | .undefined => some 0
  | .text s =>
    if isYes s then some 1
    else if isNo s then some 0
    else (spelled? s.toList).filter fun n => low ≤ n ∧ n ≤ high
  | _ => none

/-- A leaf as a signed integer of 64 bits. -/
def asInteger64? (setting : Setting) : Option Int64 :=
  (setting.asInteger? Text.integer? (-0x8000000000000000) 0x7fffffffffffffff).map Int64.ofInt

/-- A leaf as a natural number of 32 bits. It is read as one of 64 bits first, so decimals are cut
    off at zero but refused when they are too large. Its text has no minus sign. -/
def asNatural32? (setting : Setting) : Option UInt32 :=
  (setting.asInteger? (fun cs => (Text.natural? cs).map Int.ofNat) 0 0xffffffffffffffff).bind
    natural32?

/-- The fields of a record: the entries of a table, or the items of a list in order of the field
    names. -/
def fields? (names : List String) : Setting → Option (List (String × Setting))
  | .table entries => some entries
  | .list items => some (names.zip items)
  | _ => none

/-- A field that may be left out but is not to be wrong. -/
def field? {α : Type} (fields : List (String × Setting)) (name : String)
    (read : Setting → Option α) : Option (Option α) :=
  match fields.lookup name with
  | some setting => (read setting).map some
  | none => some none

end Setting

end SimulationScript
