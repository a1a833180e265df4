import SimulationScript.Settings.Toml.Numeral
import SimulationScript.Settings.Toml.Table

/-! # TOML documents

A reader of TOML documents that gives the settings in them. It refuses what the format refuses,
among it names that are defined twice; dates and times become texts.
-/

namespace SimulationScript.Toml

/-- The items of an array up to its closing bracket, given the reader of an item. -/
def items (value : Reader Value) : Nat → Reader (List Value)
  | 0, _ => none
  | limit + 1, cs =>
    match skipBlank cs with
    | ']' :: rest => some ([], rest)
    | here => do
      let (item, rest) ← value here
      match skipBlank rest with
      | ',' :: rest =>
        let (more, rest) ← items value limit rest
        return (item :: more, rest)
      | ']' :: rest => return ([item], rest)
      | _ => none

def pair (limit : Nat) (value : Reader Value) : Reader (List String × Value) := fun cs => do
  let (path, rest) ← key? limit cs
  match rest with
  | '=' :: rest =>
    let (item, rest) ← value (skipSpace rest)
    return ((path, item), rest)
  | _ => none

/-- The pairs of an inline table up to its closing brace. -/
def inlinePairs (value : Reader Value) :
    Nat → List (String × Node) → Reader (List (String × Node))
  | 0, _, _ => none
  | limit + 1, entries, cs => do
    let ((path, item), rest) ← pair (limit + 1) value (skipSpace cs)
    let entries ← define path item entries
    match skipSpace rest with
    | ',' :: rest => inlinePairs value limit entries rest
    | '}' :: rest => return (entries, rest)
    | _ => none

/-- Whether a character can stand in a bare word. -/
def isWordChar (c : Char) : Bool :=
  c.isAlphanum || c == '_' || c == '-' || c == '+' || c == '.'

def word? (cs : List Char) : Option Setting :=
  if cs = "true".toList then some (.flag true)
  else if cs = "false".toList then some (.flag false)
  else (integer? cs).or (decimal? cs)

/-- A value without brackets: a string, a date or time, a truth value or a number. -/
def scalar? (limit : Nat) : Reader Value := fun cs =>
  match cs with
  | '"' :: _ => (string? limit cs).map fun (s, rest) => (.leaf (.text (String.ofList s)), rest)
  | '\'' :: _ => (string? limit cs).map fun (s, rest) => (.leaf (.text (String.ofList s)), rest)
  | _ =>
    match moment? cs with
    | some (moment, rest) => some (.moment moment, rest)
    | none =>
      let word := cs.takeWhile isWordChar
      (word? word).map fun setting => (.leaf setting, cs.drop word.length)

/-- A value with at most `depth` brackets open at a time. -/
def value (limit : Nat) : Nat → Reader Value
  | 0, cs => scalar? limit cs
  | depth + 1, cs =>
    match cs with
    | '[' :: rest => (items (value limit depth) limit rest).map fun (list, rest) =>
        (.list list, rest)
    | '{' :: rest =>
      match skipSpace rest with
      | '}' :: rest => some (.table [], rest)
      | here => (inlinePairs (value limit depth) limit [] here).map fun (entries, rest) =>
          (.table (entryValues entries), rest)
    | _ => scalar? limit cs

def line (limit : Nat) (header : List String) (entries : List (String × Node)) (cs : List Char) :
    Option (List String × List (String × Node) × List Char) :=
  match cs with
  | '[' :: '[' :: rest => do
    let (path, rest) ← key? limit rest
    match rest with
    | ']' :: ']' :: rest => return (path, ← descend openArrayTable path entries, rest)
    | _ => none
  | '[' :: rest => do
    let (path, rest) ← key? limit rest
    match rest with
    | ']' :: rest => return (path, ← descend openTable path entries, rest)
    | _ => none
  | _ => do
    let ((path, item), rest) ← pair limit (value limit maxDepth) cs
    return (header, ← defineUnder header path item entries, rest)

/-- Takes in the lines of a document, each of at most `length` characters. -/
def lines (length : Nat) : Nat → List String → List (String × Node) → List Char →
    Option (List (String × Node))
  | 0, _, _, _ => none
  | limit + 1, header, entries, cs =>
    match skipBlank cs with
    | [] => some entries
    | here => do
      let (header, entries, rest) ← line length header entries here
      let rest ← endLine? rest
      lines length limit header entries rest

/-- The settings of a document, or none when it is no TOML or no table. -/
def parse? (text : String) : Option (List (String × Setting)) := do
  let cs := match text.toList with
    | '\ufeff' :: rest => rest
    | cs => cs
  let limit := cs.length + 1
  let entries ← lines limit limit [] [] cs
  match ← (Value.table (entryValues entries)).setting? with
  | .table entries => some entries
  | _ => none

end SimulationScript.Toml
