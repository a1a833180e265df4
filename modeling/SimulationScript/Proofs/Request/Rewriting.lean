import SimulationScript.Proofs.Decoding.Rewriting
import SimulationScript.Proofs.Request.Agreement
import SimulationScript.Proofs.Request.Parts

/-! # Ways to write a request

A request is read from an object whatever the order of its members, under all their names, with
members that nobody knows, and without those that say what is understood anyway; and it is read from
an array.
-/

namespace SimulationScript.Request

open Json

variable {request : Request} {members : List (String × Json)} {value value' : Json}

theorem exists_item_of_default (part : Part) (x : parts.Part part)
    (default : parts.default part = some x) :
    ∃ item, (parts.decoder part).ofJson item = .ok x := by
  cases part with
  | scope => cases default
  | info => cases default
  | policy =>
      cases default
      exact ⟨.obj [], rfl⟩
  | region =>
      cases default
      exact ⟨.str "", rfl⟩
  | year =>
      cases default
      exact ⟨.null, rfl⟩
  | household =>
      cases default
      exact ⟨.null, rfl⟩
  | earningVariation =>
      cases default
      exact ⟨.bool false, rfl⟩

/-- Every object that is read as a request can be written as an array, with any number of items that
    leaves out defaults only. -/
theorem exists_array_rewriting (decoded : decoder.ofJson (.obj members) = .ok request) {count : Nat}
    (fits : count ≤ Part.order.length)
    (omitted : ∀ part ∈ Part.order.drop count, parts.IsDefault request part) :
    ∃ items, items.length = count ∧ parts.Rewriting request (.obj members) (.arr items) := by
  obtain ⟨items, length, form⟩ :=
    RecordType.Parts.exists_arrayForm lawful_parts exists_item_of_default decoded fits omitted
  exact ⟨items, length, .enumerate form⟩

/-- Any number of changes to what is written for a request leaves it what it is read as, from a value
    and from a document. -/
theorem rewritten_request_decodes (decoded : decoder.ofJson value = .ok request)
    (rewritings : Relation.ReflTransGen (parts.Rewriting request) value value') :
    decoder.ofJson value' = .ok request ∧
      ∀ text, IsDocumentOf text value' → decoder.ofDocument text = .ok request := by
  have rewritten : decoder.ofJson value' = .ok request :=
    RecordType.Parts.decodes_of_rewritings lawful_parts rewritings decoded
  exact ⟨rewritten, fun text document => (agrees_decoder.ofDocument_iff document request).mpr rewritten⟩

/-- A household simulation of nobody, all of whose other parts are left out. -/
def emptyHousehold : Request :=
  .ofHousehold (.ofPackage "uk") (.obj [])

def writtenScope : String × Json := ("type", .str "household")

def writtenInfo : String × Json := ("metadata", .arr [.str "uk"])

def writtenHousehold : Json :=
  .obj [("household_input", .obj []), writtenScope, writtenInfo, ("year", .null)]

/-- The same request with a null that nobody reads and without its year. -/
def notedMembers : List (String × Json) :=
  [("note", .null), writtenScope, ("householdInput", .obj []), writtenInfo]

/-- The same request with its defaults written for the policy, the region and the year, and no item
    for the last part. -/
def householdItems : List Json :=
  [.str "household", .arr [.str "uk"], .obj [], .str "", .null, .obj []]

theorem arrayForm_householdItems :
    parts.ArrayForm emptyHousehold notedMembers householdItems := by
  have given {part : Part} {item : Json} (name : String) (named : name ∈ part.names)
      (member : (name, item) ∈ notedMembers) : parts.Gives notedMembers part item :=
    .inl ⟨name, (names_parts part).symm ▸ named, member⟩
  have understood {part : Part} {item : Json} {x : part.Value}
      (absent : ∀ name ∈ part.names, name ∉ Entries.keys notedMembers)
      (default : part.default = some x) (read : part.decoder.ofJson item = .ok x) :
      parts.Gives notedMembers part item :=
    .inr ⟨(names_parts part).symm ▸ absent, x, default, read⟩
  constructor
  · refine .cons (given "type" (by decide) (by simp [notedMembers, writtenScope])) ?_
    refine .cons (given "metadata" (by decide) (by simp [notedMembers, writtenInfo])) ?_
    refine .cons (understood (by decide) rfl rfl) ?_
    refine .cons (understood (by decide) rfl rfl) ?_
    refine .cons (understood (by decide) rfl rfl) ?_
    exact .cons (given "householdInput" (by decide) (by simp [notedMembers])) .nil
  · intro part late
    obtain rfl := List.mem_singleton.mp late
    rfl

theorem household_rewritings :
    Relation.ReflTransGen (parts.Rewriting emptyHousehold) writtenHousehold (.arr householdItems) := by
  have unknown (part : Part) : "note" ∉ parts.names part := by
    cases part <;> decide
  refine .head (.permute (.swap ..)) ?_
  refine .head (.extend [] "note" .null unknown) ?_
  refine .head (.rename [("note", .null), writtenScope] Part.household "householdInput"
    (by decide) (by decide)) ?_
  refine .head (.leaveOut notedMembers Part.year (by decide) rfl) ?_
  exact .single (.enumerate arrayForm_householdItems)

theorem written_and_enumerated_household_decode :
    decoder.ofJson writtenHousehold = .ok emptyHousehold ∧
      Relation.ReflTransGen (parts.Rewriting emptyHousehold) writtenHousehold
        (.arr householdItems) ∧
      decoder.ofJson (.arr householdItems) = .ok emptyHousehold ∧
      ∀ text, IsDocumentOf text (.arr householdItems) →
        decoder.ofDocument text = .ok emptyHousehold := by
  have decoded : decoder.ofJson writtenHousehold = .ok emptyHousehold := rfl
  exact ⟨decoded, household_rewritings, rewritten_request_decodes decoded household_rewritings⟩

end SimulationScript.Request
