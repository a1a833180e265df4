import SimulationScript.Proofs.Decoding.Agreement
import SimulationScript.Proofs.OrderedMap
import SimulationScript.Request

/-! # Decoding undoes writing

The value that is written for a request is decoded as the request. The order of entries is part of
this, since every map is filled in the order in which it was written.
-/

namespace SimulationScript

open Json

namespace Decoder

variable {α : Type} {decoder : Decoder α} {toJson : α → Json}

theorem ofJson_map (inverse : ∀ x, decoder.ofJson (toJson x) = .ok x) (entries : OrderedMap α) :
    (map decoder).ofJson (.obj (entries.entries.map fun (name, x) => (name, toJson x))) = .ok entries := by
  have setNext (seen : OrderedMap α) (entry : String × α) :
      setMember decoder seen (entry.1, toJson entry.2) = pure (seen.set entry.1 entry.2) := by
    simp [setMember, inverse, Except.map, pure, Except.pure]
  simp only [map, List.foldlM_map, setNext, List.foldlM_pure, OrderedMap.foldl_set_entries]
  rfl

end Decoder

namespace RecordType

variable {σ α β : Type} {type : RecordType σ α}

/-- A member that is read as a field fills the field in, and the members after it go on from there. -/
theorem foldlM_of_field {name : String} {aliases : List String} {required : Bool}
    {get : σ → Option β} {put : σ → β → σ} {decoder : Decoder β} {draft full : σ} {value : Json} {x : β}
    {members : List (String × Json)}
    (known : type.field? name = some (.of name aliases required get put decoder))
    (unset : get draft = none) (read : decoder.ofJson value = .ok x)
    (onward : members.foldlM type.setMember (put draft x) = .ok full) :
    ((name, value) :: members).foldlM type.setMember draft = .ok full := by
  have taken : type.setMember draft (name, value) = .ok (put draft x) := by
    simp [setMember, known, Field.of, unset, read, Except.map]
  rw [List.foldlM_cons, taken]
  exact onward

theorem ofJson_of_foldlM {members : List (String × Json)} {record : α} (draft : σ)
    (filled : members.foldlM type.setMember type.blank = .ok draft)
    (built : type.build draft = .ok record) : type.decoder.ofJson (.obj members) = .ok record := by
  simp only [decoder, ofJson, filled]
  exact built

end RecordType

theorem Scope.ofJson_toJson (scope : Scope) : Scope.decoder.ofJson scope.toJson = .ok scope := by
  cases scope <;> rfl

theorem EntityMeta.ofJson_toJson (entity : EntityMeta) :
    EntityMeta.decoder.ofJson entity.toJson = .ok entity :=
  rfl

theorem VariableMeta.ofJson_toJson (known : VariableMeta) :
    VariableMeta.decoder.ofJson known.toJson = .ok known :=
  rfl

theorem Metadata.ofJson_toJson (info : Metadata) : Metadata.decoder.ofJson info.toJson = .ok info := by
  have entities := Decoder.ofJson_map EntityMeta.ofJson_toJson info.entities
  have known := Decoder.ofJson_map VariableMeta.ofJson_toJson info.knownVariables
  refine RecordType.ofJson_of_foldlM
    ⟨some info.package, some info.entities, some info.knownVariables⟩ ?filled rfl
  refine RecordType.foldlM_of_field rfl rfl rfl ?_
  refine RecordType.foldlM_of_field rfl rfl entities ?_
  exact RecordType.foldlM_of_field rfl rfl known rfl

theorem ParameterValue.ofJson_toJson (value : ParameterValue) :
    ParameterValue.decoder.ofJson value.toJson = .ok value := by
  cases value <;> rfl

theorem Reform.ofJson_toJson (reform : Reform) : Reform.decoder.ofJson reform.toJson = .ok reform := by
  have schedules := Decoder.ofJson_map (Decoder.ofJson_map ParameterValue.ofJson_toJson) reform.data
  refine RecordType.ofJson_of_foldlM ⟨some reform.data⟩ ?filled rfl
  exact RecordType.foldlM_of_field rfl rfl schedules rfl

theorem Policy.ofJson_toJson (policy : Policy) : Policy.decoder.ofJson policy.toJson = .ok policy := by
  refine RecordType.ofJson_of_foldlM ⟨some policy.reform⟩ ?filled rfl
  exact RecordType.foldlM_of_field rfl rfl (Reform.ofJson_toJson policy.reform) rfl

theorem natural32?_toNat (word : UInt32) : natural32? word.toNat = some word := by
  have small := word.toNat_lt
  have fits : 0 ≤ (word.toNat : Int) ∧ (word.toNat : Int) < 0x100000000 := by omega
  simp only [natural32?, if_pos fits, Int.toNat_natCast, UInt32.ofNat_toNat]

namespace Year

theorem ofJson_integer {n : Int} {isWord : IsWord n} {word : UInt32}
    (small : natural32? n = some word) : ofJson (.num (.integer n isWord)) = .ok ⟨word⟩ := by
  simp only [ofJson, small]

theorem ofJson_decoder : decoder.ofJson = ofJson := rfl

theorem ofJson_toJson (year : Year) : decoder.ofJson year.toJson = .ok year := by
  have small := natural32?_toNat year.value
  rw [ofJson_decoder, toJson, Number.ofUInt32, ofJson_integer small]

end Year

namespace Request

theorem ofJson_year (year : Option Year) :
    (Decoder.nullable Year.decoder).ofJson (orNull (year.map Year.toJson)) = .ok year := by
  cases year with
  | none => rfl
  | some year =>
      have noNull : year.toJson ≠ .null := by simp [Year.toJson]
      rw [Option.map_some, orNull, Option.getD_some, Decoder.ofJson_nullable noNull,
        Year.ofJson_toJson]
      rfl

theorem ofJson_household {household : Option Json} (noNull : household ≠ some .null) :
    (Decoder.nullable Decoder.any).ofJson (orNull household) = .ok household := by
  cases household with
  | none => rfl
  | some value =>
      have noNull : value ≠ .null := fun null => noNull (congrArg some null)
      exact Decoder.ofJson_nullable noNull

theorem ofJson_toJson {request : Request} (noNull : request.household ≠ some .null) :
    decoder.ofJson request.toJson = .ok request := by
  refine RecordType.ofJson_of_foldlM ⟨some request.scope, some request.info, some request.policy,
    some request.region, some request.year, some request.household,
    some request.earningVariation⟩ ?filled rfl
  refine RecordType.foldlM_of_field rfl rfl (Scope.ofJson_toJson request.scope) ?_
  refine RecordType.foldlM_of_field rfl rfl (Metadata.ofJson_toJson request.info) ?_
  refine RecordType.foldlM_of_field rfl rfl (Policy.ofJson_toJson request.policy) ?_
  refine RecordType.foldlM_of_field rfl rfl rfl ?_
  refine RecordType.foldlM_of_field rfl rfl (ofJson_year request.year) ?_
  refine RecordType.foldlM_of_field rfl rfl (ofJson_household noNull) ?_
  exact RecordType.foldlM_of_field rfl rfl rfl rfl

end Request

end SimulationScript
