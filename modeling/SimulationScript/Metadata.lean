import SimulationScript.Decoding.Record

/-! # Package metadata

What a country package says about itself: its name, the entities of its households and its
variables.
-/

namespace SimulationScript

structure EntityMeta where
  /-- The name of the group of such entities in a household. -/
  plural : String
  deriving DecidableEq, Repr

namespace EntityMeta

def toJson (entity : EntityMeta) : Json :=
  .obj [("plural", .str entity.plural)]

structure Draft where
  plural : Option String := none

def type : RecordType Draft EntityMeta where
  name := "EntityMeta"
  fields := [.needed "plural" Draft.plural (fun draft plural => { draft with plural }) .text]
  blank := {}
  build draft := do
    let plural ← RecordType.require "plural" draft.plural
    return { plural }

def decoder : Decoder EntityMeta := type.decoder

end EntityMeta

structure VariableMeta where
  /-- Whether households may give the variable; the package computes the others. -/
  isInput : Bool
  deriving DecidableEq, Repr

namespace VariableMeta

def toJson (known : VariableMeta) : Json :=
  .obj [("is_input_variable", .bool known.isInput)]

structure Draft where
  isInput : Option Bool := none

def type : RecordType Draft VariableMeta where
  name := "VariableMeta"
  fields := [
    .optional "is_input_variable" Draft.isInput (fun draft isInput => { draft with isInput })
      .flag ["isInputVariable"]]
  blank := {}
  build draft := .ok ⟨draft.isInput.getD true⟩

def decoder : Decoder VariableMeta := type.decoder

end VariableMeta

/-- What is known of a country package. -/
structure Metadata where
  package : String
  entities : OrderedMap EntityMeta
  knownVariables : OrderedMap VariableMeta
  deriving DecidableEq, Repr

namespace Metadata

/-- A package of which only the name is known. -/
def ofPackage (package : String) : Metadata :=
  ⟨package, .empty, .empty⟩

/-- Whether a group of a household is one of the package's. Every group is when the package names
    no entities. -/
def isEntityGroup (info : Metadata) (group : String) : Bool :=
  info.entities.isEmpty || info.entities.values.any (·.plural == group)

/-- Whether the package is known to compute a variable. -/
def isComputed (info : Metadata) (name : String) : Bool :=
  match info.knownVariables.get? name with
  | some known => !known.isInput
  | none => false

def toJson (info : Metadata) : Json :=
  .obj [
    ("package", .str info.package),
    ("entities", .obj (info.entities.entries.map fun (name, entity) => (name, entity.toJson))),
    ("variables",
      .obj (info.knownVariables.entries.map fun (name, known) => (name, known.toJson)))]

structure Draft where
  package : Option String := none
  entities : Option (OrderedMap EntityMeta) := none
  knownVariables : Option (OrderedMap VariableMeta) := none

def type : RecordType Draft Metadata where
  name := "Metadata"
  fields := [
    .needed "package" Draft.package (fun draft package => { draft with package }) .text,
    .optional "entities" Draft.entities (fun draft entities => { draft with entities })
      (.map EntityMeta.decoder),
    .optional "variables" Draft.knownVariables
      (fun draft knownVariables => { draft with knownVariables }) (.map VariableMeta.decoder)]
  blank := {}
  build draft := do
    let package ← RecordType.require "package" draft.package
    return {
      package
      entities := draft.entities.getD .empty
      knownVariables := draft.knownVariables.getD .empty }

def decoder : Decoder Metadata := type.decoder

end Metadata

end SimulationScript
