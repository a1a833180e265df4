import SimulationScript.Settings.Basic

/-! # Paths to settings

A path leads from the root of a tree of settings to a place in it, by names of table entries and
positions in lists. A setting is put at a place by making whatever is missing on the way. Tables
are laid over each other leaf by leaf, everything else replaces what was there before. Names are
kept in lower case, so their case does not matter.
-/

namespace SimulationScript.Setting

/-- One step from a setting to a part of it. -/
inductive Step where
  /-- To the entry of a table under a name. -/
  | name (name : String)
  /-- To the item of a list at a position. Negative positions count from the end. -/
  | position (position : Int)
  deriving DecidableEq, Repr

/-- A path from the root of a tree to a place in it. -/
abbrev Path := List Step

namespace Path

/-- Whether a character can stand in the names of a path. -/
def isNameChar (c : Char) : Bool :=
  c.isAlphanum || c == ' ' || c == '_' || c == '-'

/-- A position as it stands between brackets: digits with an optional minus sign, and blanks
    around them. -/
def position? (cs : List Char) : Option Int :=
  let isSpace (c : Char) := c == ' ' || c == '\t'
  let word := (cs.dropWhile isSpace).takeWhile (!isSpace ·)
  let after := (cs.dropWhile isSpace).dropWhile (!isSpace ·)
  if word.head? == some '+' || !after.all isSpace then none
  else (Text.integer? word).filter fun n => IsSignedWord n

/-- The steps that a text spells: a point before each name, and brackets around each position. -/
def steps? (cs : List Char) : Option Path :=
  match cs with
  | [] => some []
  | '.' :: rest =>
    let name := rest.takeWhile isNameChar
    if name.isEmpty then none
    else (steps? (rest.dropWhile isNameChar)).map (.name (String.ofList name) :: ·)
  | '[' :: rest =>
    match _h : rest.dropWhile (· != ']') with
    | [] => none
    | _ :: after => do
      let position ← position? (rest.takeWhile (· != ']'))
      return .position position :: (← steps? after)
  | _ => none
termination_by cs.length
decreasing_by
  · have := (List.dropWhile_sublist isNameChar (l := rest)).length_le
    simp only [List.length_cons]
    omega
  · have := (List.dropWhile_sublist (· != ']') (l := rest)).length_le
    simp only [_h, List.length_cons] at this ⊢
    omega

/-- The path that a key spells, the point before its first name left out. A key that spells none
    is a name itself. -/
def ofKey (key : String) : Path :=
  let key := key.toLower
  (steps? ('.' :: key.toList)).getD [.name key]

end Path

mutual

/-- A setting laid over what was there before. -/
def laidOver : Setting → Option Setting → Setting
  | .table entries, existing => overAll entries (existing.getD (.table []))
  | value, _ => value

/-- Entries laid one after the other over a setting, which becomes a table if there are any. -/
def overAll : List (String × Setting) → Setting → Setting
  | [], target => target
  | (key, value) :: rest, target =>
    let name := key.toLower
    overAll rest
      (.table (Entries.set name (value.laidOver (target.entries.lookup name)) target.entries))

end

def maxItems : Nat := 0x8000000

/-- The index of a position in a list of some length. Positions before the list and beyond all
    lists have none. -/
def index? (position : Int) (length : Nat) : Option Nat :=
  if 0 ≤ position then if position.toNat < maxItems then some position.toNat else none
  else if position.natAbs ≤ length then some (length - position.natAbs)
  else none

/-- The items with the one at an index replaced. Nulls fill up a list that is too short. -/
def replaceItem (index : Nat) (item : Setting) (items : List Setting) : List Setting :=
  if index < items.length then items.set index item
  else items ++ Nat.repeat (.null :: ·) (index - items.length) [item]

/-- Puts a setting at a place in a tree: laid over the entry that is there, or instead of the item
    that is there. A position without an index is no place. -/
def put? (value : Setting) : Path → Setting → Option Setting
  | [], _ => some value
  | [.name name], target =>
    some (.table (Entries.set name (value.laidOver (target.entries.lookup name)) target.entries))
  | .name name :: path, target => do
    let inner ← put? value path ((target.entries.lookup name).getD .null)
    return .table (Entries.set name inner target.entries)
  | .position position :: path, target => do
    let index ← index? position target.items.length
    let inner ← put? value path (target.items[index]?.getD .null)
    return .list (replaceItem index inner target.items)

/-- Puts the settings of entries, whose keys spell paths, one after the other. -/
def putAll? (entries : List (String × Setting)) (root : Setting) : Option Setting :=
  entries.foldlM (fun root entry => put? entry.2 (Path.ofKey entry.1) root) root

end SimulationScript.Setting
