import SimulationScript.Proofs.Decoding.Provenance
import SimulationScript.Proofs.Json.Reading
import SimulationScript.Proofs.Policy.Reform
import SimulationScript.Proofs.Request.Agreement
import SimulationScript.Proofs.Request.Inverse
import SimulationScript.Proofs.Request.Parts

/-! # Requests written and read back

A request that has been read from a document is written as a document that is read as the same
request, down to the order of everything in it, if all its numbers are integers.
-/

namespace SimulationScript

open Json

/-! ## What is written can be read -/

namespace ParameterValue

def numbers : ParameterValue → List Number
  | number n => [n]
  | _ => []

theorem readable_toJson (depth : Nat) {value : ParameterValue}
    (integers : ∀ n ∈ value.numbers, n.isInteger) : Readable depth value.toJson := by
  cases value with
  | flag b => exact readable_bool depth b
  | number n => exact readable_num depth (integers n List.mem_cons_self)
  | text s => exact readable_str depth s

end ParameterValue

theorem EntityMeta.readable_toJson (depth : Nat) (entity : EntityMeta) :
    Readable (depth + 1) entity.toJson := by
  rw [toJson, readable_obj_iff]
  simp [Entries.Distinct, Entries.keys, readable_str]

theorem VariableMeta.readable_toJson (depth : Nat) (known : VariableMeta) :
    Readable (depth + 1) known.toJson := by
  rw [toJson, readable_obj_iff]
  simp [Entries.Distinct, Entries.keys, readable_bool]

theorem Metadata.readable_toJson (depth : Nat) (info : Metadata) :
    Readable (depth + 3) info.toJson := by
  have entities := readable_map info.entities fun entry _ =>
    EntityMeta.readable_toJson depth entry.2
  have known := readable_map info.knownVariables fun entry _ =>
    VariableMeta.readable_toJson depth entry.2
  rw [toJson, readable_obj_iff]
  refine ⟨by simp [Entries.Distinct, Entries.keys], ?_⟩
  simp only [List.forall_mem_cons]
  exact ⟨readable_str _ _, entities, known, by simp⟩

theorem Reform.readable_toJson (depth : Nat) {reform : Reform}
    (integers : ∀ update ∈ reform.updates, ∀ n ∈ update.value.numbers, n.isInteger) :
    Readable (depth + 3) reform.toJson := by
  have schedules (entry : String × Schedule) (named : entry ∈ reform.data.entries) :
      Readable (depth + 1) (scheduleJson entry.2) :=
    readable_map entry.2 fun timed present =>
      ParameterValue.readable_toJson depth
        (integers ⟨entry.1, timed.1, timed.2⟩ (mem_updates_iff.mpr ⟨entry.2, named, present⟩))
  have data := readable_map reform.data schedules
  rw [toJson, readable_obj_iff]
  refine ⟨by simp [Entries.Distinct, Entries.keys], ?_⟩
  simp only [List.forall_mem_cons]
  exact ⟨data, by simp⟩

theorem Policy.readable_toJson (depth : Nat) {policy : Policy}
    (integers : ∀ update ∈ policy.reform.updates, ∀ n ∈ update.value.numbers, n.isInteger) :
    Readable (depth + 4) policy.toJson := by
  rw [toJson, readable_obj_iff]
  simp [Entries.Distinct, Entries.keys, Reform.readable_toJson depth integers]

namespace Request

/-- The numbers of a request: the parameter values of its policy and all that its household holds. -/
def numbers (request : Request) : List Number :=
  request.policy.reform.updates.flatMap (·.value.numbers) ++
    request.household.toList.flatMap Json.numbers

theorem readable_year (depth : Nat) (year : Option Year) :
    Readable depth (orNull (year.map Year.toJson)) := by
  cases year with
  | none => exact readable_null depth
  | some year => exact readable_num depth rfl

theorem readable_toJson {depth : Nat} {request : Request}
    (integers : ∀ n ∈ request.numbers, n.isInteger)
    (household : ∀ value ∈ request.household, value.WellFormed ∧ value.depth ≤ depth + 4) :
    Readable (depth + 5) request.toJson := by
  obtain ⟨inPolicy, inHousehold⟩ := List.forall_mem_append.mp integers
  have policy : Readable (depth + 4) request.policy.toJson :=
    Policy.readable_toJson depth fun update present n here =>
      inPolicy n (List.mem_flatMap.mpr ⟨update, present, here⟩)
  have given : Readable (depth + 4) (orNull request.household) := by
    cases held : request.household with
    | none => exact readable_null _
    | some value =>
        obtain ⟨wellFormed, nested⟩ := household value held
        exact ⟨wellFormed, nested, fun n here =>
          inHousehold n (List.mem_flatMap.mpr ⟨value, by simp [held], here⟩)⟩
  rw [toJson, readable_obj_iff]
  refine ⟨by simp [Entries.Distinct, Entries.keys], ?_⟩
  simp only [List.forall_mem_cons]
  exact ⟨readable_str _ _, Metadata.readable_toJson (depth + 1) _, policy, readable_str _ _,
    readable_year _ _, given, readable_bool _ _, by simp⟩

/-! ## The round trip -/

theorem household_of_document {text : String} {request : Request}
    (decoded : decoder.ofDocument text = .ok request) :
    ∀ value ∈ request.household, (value.WellFormed ∧ value.depth ≤ 126) ∧ value ≠ .null := by
  intro value held
  obtain ⟨rest, read, _⟩ := readWhole_eq_ok.mp decoded
  have read : type.ofText maxDepth text.toList = .ok (request, rest) := read
  rcases RecordType.Parts.part_of_ofText lawful_parts read .household with default | origin
  · have noneHeld : request.household = none := (Option.some.inj default).symm
    simp [noneHeld] at held
  · obtain ⟨d, oneLess, cs, last, here⟩ := origin
    have same : d = 126 := by simpa [maxDepth] using oneLess.symm
    subst same
    have here : (Decoder.nullable Decoder.any).ofText 126 cs = .ok (request.household, last) := here
    rw [Option.mem_def.mp held] at here
    obtain ⟨read, noNull⟩ := Decoder.read_of_nullable here
    exact ⟨sound_of_read read, noNull⟩

/-- A request from a document, with only integers for numbers, is written as a document of itself. -/
theorem written_request_reads_back {text : String} {request : Request}
    (decoded : decoder.ofDocument text = .ok request)
    (integers : ∀ n ∈ request.numbers, n.isInteger) :
    decoder.ofDocument request.toJson.compactText = .ok request := by
  have household := household_of_document decoded
  have noNull : request.household ≠ some .null := fun null => (household .null null).2 rfl
  have readable : Readable (122 + 5) request.toJson :=
    readable_toJson integers fun value held => (household value held).1
  exact (agrees_decoder.ofDocument_iff (document_compact readable) request).mpr (ofJson_toJson noNull)

/-- A request with its year as a text, its metadata and policy as arrays, and a member that nobody
    reads. -/
def carelessValue : Json :=
  .obj [
    ("type", .str "household"), ("metadata", .arr [.str "uk"]),
    ("policy", .arr [.arr [.obj [("gov", .obj [("2025", .num (.ofInt64 (-5)))])]]]),
    ("year", .str " 2026"), ("note", .arr [.null]),
    ("householdInput", .obj [("y\nu", .arr [.null, .num (.ofUInt32 40)])])]

/-- What the careless value says. -/
def carelessRequest : Request where
  scope := .household
  info := .ofPackage "uk"
  policy := ⟨⟨.ofList [("gov", .ofList [("2025", .number (.ofInt64 (-5)))])]⟩⟩
  region := ""
  year := some ⟨2026⟩
  household := some (.obj [("y\nu", .arr [.null, .num (.ofUInt32 40)])])
  earningVariation := false

theorem readable_carelessValue : Readable maxDepth carelessValue where
  wellFormed := by
    simp [carelessValue, WellFormed, WellFormedItems, WellFormedMembers, Entries.Distinct,
      Entries.keys]
  nested := by decide
  integers := by decide

theorem careless_request_reads_back :
    decoder.ofDocument carelessValue.compactText = .ok carelessRequest ∧
      (∀ n ∈ carelessRequest.numbers, n.isInteger) ∧
      decoder.ofDocument carelessRequest.toJson.compactText = .ok carelessRequest := by
  have document := document_compact readable_carelessValue
  have decoded : decoder.ofDocument carelessValue.compactText = .ok carelessRequest :=
    (agrees_decoder.ofDocument_iff document carelessRequest).mpr rfl
  have integers : ∀ n ∈ carelessRequest.numbers, n.isInteger := by decide
  exact ⟨decoded, integers, written_request_reads_back decoded integers⟩

end Request

end SimulationScript
