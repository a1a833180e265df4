import SimulationScript.Settings.Toml.Quoted
import SimulationScript.Settings.Toml.Value

/-! # TOML tables

Keys, and the tables of a document while it is being read. A table may be opened once and a name
defined once; what may still be added to a table depends on how it came to be.
-/

namespace SimulationScript.Toml

/-! ## Keys -/

/-- Whether a character can stand in a bare key. -/
def isKeyChar (c : Char) : Bool :=
  c.isAlphanum || c == '_' || c == '-'

def keyPart? (limit : Nat) : Reader String := fun cs =>
  match cs with
  | '"' :: rest => (basicString limit rest).map fun (s, rest) => (String.ofList s, rest)
  | '\'' :: rest => (literalString rest).map fun (s, rest) => (String.ofList s, rest)
  | _ =>
    let bare := cs.takeWhile isKeyChar
    if bare.isEmpty then none else some (String.ofList bare, cs.drop bare.length)

/-- Parts with points between them, and white space around each. -/
def keyParts? : Nat → Reader (List String)
  | 0, _ => none
  | limit + 1, cs => do
    let (part, rest) ← keyPart? (limit + 1) (skipSpace cs)
    match skipSpace rest with
    | '.' :: rest =>
      let (parts, rest) ← keyParts? limit rest
      return (part :: parts, rest)
    | rest => return ([part], rest)

/-- How deep values and tables may lie inside each other. -/
def maxDepth : Nat := 79

/-- A key of at most `maxDepth` parts. -/
def key? (limit : Nat) : Reader (List String) := fun cs => do
  let (parts, rest) ← keyParts? limit cs
  guard (parts.length ≤ maxDepth)
  return (parts, rest)

/-! ## Tables under construction -/

/-- How a table came to be, which decides what may still be added to it. -/
inductive Origin where
  /-- On the way of the header of another table. -/
  | implied
  /-- By a header of its own. -/
  | header
  /-- By a key with points in it. -/
  | dotted
  deriving DecidableEq, Repr

/-- A part of a document under construction. -/
inductive Node where
  | value (value : Value)
  | table (origin : Origin) (entries : List (String × Node))
  | tables (finished : List (List (String × Node))) (last : List (String × Node))
  deriving Inhabited

mutual

/-- The value that a part of a document amounts to. -/
def Node.toValue : Node → Value
  | .value value => value
  | .table _ entries => .table (entryValues entries)
  | .tables finished last => .list (tableValues finished ++ [.table (entryValues last)])

def entryValues : List (String × Node) → List (String × Value)
  | [] => []
  | (key, node) :: rest => (key, node.toValue) :: entryValues rest

def tableValues : List (List (String × Node)) → List Value
  | [] => []
  | entries :: rest => .table (entryValues entries) :: tableValues rest

end

/-- Sets a value under a key that is not defined yet. Tables on the way are made as dotted ones. Of
    the tables that are there already, a dotted one may be added to; an implied one and the last
    table of an array may only be passed through. -/
def define : List String → Value → List (String × Node) → Option (List (String × Node))
  | [], _, _ => none
  | [key], value, entries =>
    if (entries.lookup key).isSome then none else some (Entries.set key (.value value) entries)
  | key :: path, value, entries =>
    let passes := 2 ≤ path.length
    match entries.lookup key with
    | none => (define path value []).map fun inner =>
      Entries.set key (.table .dotted inner) entries
    | some (.table origin inner) => do
      guard (origin = .dotted ∨ origin = .implied ∧ passes)
      let inner ← define path value inner
      return Entries.set key (.table origin inner) entries
    | some (.tables finished last) => do
      guard passes
      let last ← define path value last
      return Entries.set key (.tables finished last) entries
    | some (.value _) => none

/-- Changes the entries of the table that a header leads to. Tables on the way are implied, and of
    an array of tables the last one counts. `finish` makes the entries of the table itself. -/
def descend (finish : String → List (String × Node) → Option (List (String × Node))) :
    List String → List (String × Node) → Option (List (String × Node))
  | [], _ => none
  | [key], entries => finish key entries
  | key :: path, entries => do
    match entries.lookup key with
    | none =>
      let inner ← descend finish path []
      return Entries.set key (.table .implied inner) entries
    | some (.table origin inner) =>
      let inner ← descend finish path inner
      return Entries.set key (.table origin inner) entries
    | some (.tables finished last) =>
      let last ← descend finish path last
      return Entries.set key (.tables finished last) entries
    | some (.value _) => none

/-- Opens a table of its own under a key. One that was implied so far takes its place after the
    others. -/
def openTable (key : String) (entries : List (String × Node)) :
    Option (List (String × Node)) :=
  match entries.lookup key with
  | none => some (Entries.set key (.table .header []) entries)
  | some (.table .implied inner) =>
    some (entries.filter (·.1 != key) ++ [(key, .table .header inner)])
  | some _ => none

/-- Opens another table of an array of tables under a key. -/
def openArrayTable (key : String) (entries : List (String × Node)) :
    Option (List (String × Node)) :=
  match entries.lookup key with
  | none => some (Entries.set key (.tables [] []) entries)
  | some (.tables finished last) => some (Entries.set key (.tables (finished ++ [last]) []) entries)
  | some _ => none

/-- Sets a value in the table that the latest header opened. -/
def defineUnder (header : List String) (path : List String) (value : Value)
    (entries : List (String × Node)) : Option (List (String × Node)) :=
  if header.isEmpty then define path value entries
  else descend (fun key entries =>
    match entries.lookup key with
    | some (.table origin inner) =>
      (define path value inner).map fun inner => Entries.set key (.table origin inner) entries
    | some (.tables finished last) =>
      (define path value last).map fun last => Entries.set key (.tables finished last) entries
    | _ => none) header entries

end SimulationScript.Toml
