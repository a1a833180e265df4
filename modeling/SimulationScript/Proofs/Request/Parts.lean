import SimulationScript.Proofs.Decoding.Parts
import SimulationScript.Request

/-! # The parts of a request

The seven parts of a request, which can be left out, and that no two of them share a name or a place
in drafts.
-/

namespace SimulationScript.Request

/-- What a request consists of. -/
inductive Part where
  | scope
  | info
  | policy
  | region
  | year
  | household
  | earningVariation
  deriving DecidableEq

namespace Part

/-- The parts as they follow each other in an array. -/
def order : List Part :=
  [scope, info, policy, region, year, household, earningVariation]

/-- The names under which members of an object give a part. -/
def names : Part → List String
  | scope => ["type"]
  | info => ["metadata"]
  | policy => ["policy"]
  | region => ["region"]
  | year => ["year"]
  | household => ["household_input", "householdInput"]
  | earningVariation => ["earning_variation", "earningVariation"]

def Value : Part → Type
  | scope => Scope
  | info => Metadata
  | policy => Policy
  | region => String
  | year => Option Year
  | household => Option Json
  | earningVariation => Bool

def decoder : (part : Part) → Decoder part.Value
  | scope => Scope.decoder
  | info => Metadata.decoder
  | policy => Policy.decoder
  | region => .text
  | year => .nullable Year.decoder
  | household => .nullable .any
  | earningVariation => .flag

/-- The part in a request. -/
def component (request : Request) : (part : Part) → part.Value
  | scope => request.scope
  | info => request.info
  | policy => request.policy
  | region => request.region
  | year => request.year
  | household => request.household
  | earningVariation => request.earningVariation

/-- What a part is when it is left out. Two parts have to be given. -/
def default : (part : Part) → Option part.Value
  | scope => none
  | info => none
  | policy => some Policy.empty
  | region => some ""
  | year => some (none : Option Year)
  | household => some (none : Option Json)
  | earningVariation => some false

def get (draft : Draft) : (part : Part) → Option part.Value
  | scope => draft.scope
  | info => draft.info
  | policy => draft.policy
  | region => draft.region
  | year => draft.year
  | household => draft.household
  | earningVariation => draft.earningVariation

def put (draft : Draft) : (part : Part) → part.Value → Draft
  | scope => fun x => { draft with scope := some x }
  | info => fun x => { draft with info := some x }
  | policy => fun x => { draft with policy := some x }
  | region => fun x => { draft with region := some x }
  | year => fun x => { draft with year := some x }
  | household => fun x => { draft with household := some x }
  | earningVariation => fun x => { draft with earningVariation := some x }

end Part

def parts : type.Parts Part where
  order := Part.order
  Part := Part.Value
  name part := part.names.headD ""
  aliases part := part.names.tail
  decoder := Part.decoder
  get part draft := Part.get draft part
  put part draft := Part.put draft part
  component part request := Part.component request part
  default := Part.default

theorem names_parts (part : Part) : parts.names part = part.names := by
  cases part <;> rfl

theorem Part.mem_order (part : Part) : part ∈ order := by
  cases part <;> decide

theorem Part.eq_of_mem_names {part part' : Part} {name : String} (mem : name ∈ part.names)
    (mem' : name ∈ part'.names) : part = part' := by
  have apart : ∀ part ∈ order, ∀ part' ∈ order, ∀ name ∈ part.names, name ∈ part'.names →
      part = part' := by decide
  exact apart part (mem_order part) part' (mem_order part') name mem mem'

theorem build_iff (draft : Draft) (request : Request) :
    type.build draft = .ok request ↔
      ∀ part, (Part.get draft part).or part.default = some (Part.component request part) := by
  have allParts (p : Part → Prop) : (∀ part, p part) ↔ ∀ part ∈ Part.order, p part :=
    ⟨fun all part _ => all part, fun all part => all part part.mem_order⟩
  have orSomeIff {β : Type} (x : Option β) (y z : β) : x.or (some y) = some z ↔ x.getD y = z := by
    cases x <;> simp
  rw [allParts]
  simp only [Part.order, List.forall_mem_cons]
  simp only [Part.get, Part.default, Part.component, Part.Value]
  obtain ⟨scope, info, policy, region, year, household, earningVariation⟩ := draft
  cases scope with
  | none => simp [type, RecordType.require, bind, Except.bind]
  | some scope =>
      cases info with
      | none => simp [type, RecordType.require, bind, Except.bind]
      | some info =>
          obtain ⟨scope', info', policy', region', year', household', earningVariation'⟩ := request
          simp [type, RecordType.require, bind, Except.bind, pure, Except.pure]

theorem lawful_parts : parts.Lawful where
  fields := rfl
  complete := Part.mem_order
  nodup := by decide
  apart := by
    simp only [names_parts]
    exact Part.eq_of_mem_names
  get_blank part := by cases part <;> rfl
  get_put part draft x := by cases part <;> rfl
  get_put_of_ne {part part'} draft x other := by
    cases part <;> cases part' <;> first | rfl | exact absurd rfl other
  build := build_iff

end SimulationScript.Request
