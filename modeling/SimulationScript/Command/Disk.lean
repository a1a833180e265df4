/-! # Files

What a run needs of the place it runs in: reading a file and writing one. A folder in memory is
such a place. A name leads to a file part by part, and only folders that are there can be passed.
Of what lies outside the folder only the null device is known.
-/

namespace SimulationScript.Command

/-- A place with files. -/
structure Disk (m : Type → Type) where
  /-- The text of a file, or none when there is no such file. -/
  read : String → m (Option String)
  /-- Replaces the text of a file; false when that is not possible. -/
  write : String → String → m Bool

/-! ## Names -/

/-- The parts of a name between its slashes. -/
def nameParts (name : String) : List String :=
  (name.toList.splitOn '/').map String.ofList

/-- The extension of a file name: what follows its last point, unless that comes first. -/
def extension (name : String) : String :=
  let reversed := name.toList.reverse.takeWhile (· != '/')
  let ending := reversed.takeWhile (· != '.')
  match reversed.drop ending.length with
  | _ :: _ :: _ => String.ofList ending.reverse
  | _ => ""

def leadsNowhere (part : String) : Bool :=
  part == "" || part == "."

/-- The name without the parts at its end that lead nowhere, or none when no proper name is left at
    its end. -/
def baseName? (name : String) : Option String :=
  match (nameParts name).reverse.dropWhile leadsNowhere with
  | [] => none
  | last :: before =>
    if last == ".." then none else some ("/".intercalate (last :: before).reverse)

/-- Whether a name is that of the null device, which is always empty and keeps nothing. -/
def isNullDevice (name : String) : Bool :=
  match nameParts name with
  | "" :: parts =>
    parts.filter (!leadsNowhere ·) == ["dev", "null"] && parts.getLast? == some "null"
  | _ => false

/-! ## Folders -/

/-- A way down from a folder, by the names of the folders on it and of what is at its end. -/
abbrev Way := List String

/-- Files in a folder and further down. A folder is there when there is a file in it. -/
structure Folder where
  files : List (Way × String)
  deriving Repr

namespace Folder

/-- The folder of files with the given names and texts. -/
def ofFiles (files : List (String × String)) : Folder :=
  ⟨files.map fun (name, text) => ((nameParts name).filter (!leadsNowhere ·), text)⟩

/-- Whether a way leads to a folder. -/
def isFolder (folder : Folder) (way : Way) : Bool :=
  way.isEmpty || folder.files.any fun file => way.isPrefixOf file.1 && file.1 != way

def maxNameBytes : Nat := 4095

/-- How many bytes a part of a name can have. -/
def maxPartBytes : Nat := 255

/-- Follows one part of a name. Two points lead back up, but not out of the folder. -/
def follow? (folder : Folder) (way : Way) (part : String) : Option Way :=
  if leadsNowhere part then some way
  else if part == ".." then if way.isEmpty then none else some way.dropLast
  else if folder.isFolder (way ++ [part]) then some (way ++ [part])
  else none

/-- The way to the file of a name. A name that starts with a slash leads out of the folder, one
    whose last part is no proper name is that of a folder, and one that is too long is no name. -/
def locate? (folder : Folder) (name : String) : Option Way :=
  match (nameParts name).reverse with
  | [] => none
  | last :: before =>
    if name.toList.head? == some '/' || leadsNowhere last || last == ".." then none
    else if maxNameBytes < name.utf8ByteSize || maxPartBytes < last.utf8ByteSize then none
    else (before.reverse.foldlM folder.follow? []).map (· ++ [last])

def read (folder : Folder) (name : String) : Option String :=
  if isNullDevice name then some ""
  else (folder.locate? name).bind fun way => folder.files.lookup way

/-- The folder with the text of a file replaced, if the file can be there. -/
def write? (folder : Folder) (name text : String) : Option Folder :=
  if isNullDevice name then some folder
  else do
    let way ← folder.locate? name
    guard !folder.isFolder way
    return ⟨folder.files.filter (·.1 != way) ++ [(way, text)]⟩

/-- A folder in memory as a place to run in. -/
def disk : Disk (StateM Folder) where
  read name := return read (← get) name
  write name text := do
    match write? (← get) name text with
    | some folder =>
      set folder
      return true
    | none => return false

end Folder

end SimulationScript.Command
