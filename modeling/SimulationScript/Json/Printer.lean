import SimulationScript.Json.Basic
import SimulationScript.Json.Quoted

/-! # Writing JSON

Two layouts of one grammar: compact text without any space, and indented text with one item or
member a line.
-/

namespace SimulationScript.Json

/-- A value that is neither an array nor an object, as text. -/
def scalarText : Json → List Char
  | .null => ['n', 'u', 'l', 'l']
  | .bool true => ['t', 'r', 'u', 'e']
  | .bool false => ['f', 'a', 'l', 's', 'e']
  | .num n => n.text Number.documentLayout
  | .str s => quote s.toList
  | .arr _ => []
  | .obj _ => []

mutual

/-- The value without spaces or line breaks. -/
def compact : Json → List Char
  | .arr items => '[' :: compactItems items ++ [']']
  | .obj members => '{' :: compactMembers members ++ ['}']
  | value => value.scalarText

def compactItems : List Json → List Char
  | [] => []
  | [item] => item.compact
  | item :: rest => item.compact ++ ',' :: compactItems rest

def compactMembers : List (String × Json) → List Char
  | [] => []
  | [(key, value)] => quote key.toList ++ ':' :: value.compact
  | (key, value) :: rest =>
    quote key.toList ++ ':' :: value.compact ++ ',' :: compactMembers rest

end

/-- A line break and two spaces for each level. -/
def newline (level : Nat) : List Char :=
  '\n' :: List.replicate (2 * level) ' '

mutual

/-- The value with one item or member a line, inside `level` open brackets. -/
def pretty (level : Nat) : Json → List Char
  | .arr [] => ['[', ']']
  | .arr items => '[' :: prettyItems (level + 1) items ++ newline level ++ [']']
  | .obj [] => ['{', '}']
  | .obj members => '{' :: prettyMembers (level + 1) members ++ newline level ++ ['}']
  | value => value.scalarText

/-- Items on lines of their own, with commas between them. -/
def prettyItems (level : Nat) : List Json → List Char
  | [] => []
  | [item] => newline level ++ item.pretty level
  | item :: rest => newline level ++ item.pretty level ++ ',' :: prettyItems level rest

/-- Members on lines of their own, with commas between them. -/
def prettyMembers (level : Nat) : List (String × Json) → List Char
  | [] => []
  | [(key, value)] => newline level ++ quote key.toList ++ ':' :: ' ' :: value.pretty level
  | (key, value) :: rest =>
    newline level ++ quote key.toList ++ ':' :: ' ' :: value.pretty level ++
      ',' :: prettyMembers level rest

end

def compactText (value : Json) : String :=
  String.ofList value.compact

end SimulationScript.Json
