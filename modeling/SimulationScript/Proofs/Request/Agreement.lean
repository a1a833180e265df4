import SimulationScript.Proofs.Decoding.Agreement
import SimulationScript.Request

/-! # Requests in documents

A document is read as a request at once exactly when the value that it spells is, and as the same
request.
-/

namespace SimulationScript

open Json

namespace Scope

variable {depth : Nat} {cs more rest : List Char} {value : Json} {members : List (String × Json)}

/-- What the name of a scope in an object is worth, with null behind it and no other member. -/
theorem ofText_member {here name after start : List Char} (starts : skipSpace cs = '{' :: more)
    (place : nextName true more = .ok (.next here)) (named : readString here = .ok (name, after))
    (colon : skipMark ':' after = .ok start) :
    Scope.ofText (depth + 1) cs =
      Decoder.refused (ofName (String.ofList name)) after >>= fun (scope, _) =>
        Decoder.unit.ofText depth start >>= fun (_, last) =>
          (skipMark '}' last).map (scope, ·) := by
  simp only [Scope.ofText, starts, skipQuote_of_next place, named, bind, Except.bind]
  cases ofName (String.ofList name) with
  | error => rfl
  | ok scope =>
      simp only [Decoder.refused, colon]
      rfl

theorem matches_members (spelled : SpelledMembers (Spells depth) true more members rest)
    (starts : skipSpace cs = '{' :: more) :
    Matches (Scope.ofText (depth + 1) cs) (Scope.ofJson (.obj members)) rest := by
  cases spelled with
  | closed place =>
      simp only [Scope.ofText, starts, skipQuote_of_closed place]
      rfl
  | @next _ _ here name after start value last members _ place named colon spelled others =>
      have chosen := Decoder.matches_refused (ofName (String.ofList name)) after
      have unit := Decoder.agrees_unit spelled
      rw [ofText_member starts place named colon]
      cases others with
      | closed place' =>
          refine chosen.bind fun scope => unit.bind fun _ => ?_
          simp only [skipBrace_of_closed place']
          rfl
      | next place' =>
          -- the second member is found only after the first has been read
          cases Decoder.refused (ofName (String.ofList name)) after with
          | error => rfl
          | ok scope =>
              cases null : Decoder.unit.ofText depth start with
              | error => rfl
              | ok result =>
                  obtain rfl := (unit.eq_ok_iff.mp null).2
                  simp only [bind, Except.bind, skipBrace_of_next place']
                  rfl

theorem agrees_decoder : decoder.Agrees := by
  intro depth cs value rest spelled
  rcases spelled.forms with token | ⟨d, more, items, rfl, rfl, starts, _⟩ |
    ⟨d, more, members, rfl, rfl, starts, spelled, _⟩
  · simp only [decoder, ofText]
    generalize skipSpace cs = here at token
    cases token with
    | null => rfl
    | true => rfl
    | false => rfl
    | string read =>
        simp only [read]
        exact Decoder.matches_refused _ rest
    | number initial => simp [ne_of_number initial, Matches, ofJson]
  · simp only [decoder, ofText, starts]
    rfl
  · exact matches_members spelled starts

end Scope

theorem Year.agrees_decoder : Year.decoder.Agrees :=
  Decoder.agrees_buffered Year.ofJson

theorem ParameterValue.agrees_decoder : ParameterValue.decoder.Agrees :=
  Decoder.agrees_buffered ParameterValue.ofJson

theorem EntityMeta.agrees_decoder : EntityMeta.decoder.Agrees := by
  apply RecordType.agrees_decoder
  simp only [EntityMeta.type, List.forall_mem_cons]
  exact ⟨Field.agrees_of Decoder.agrees_text .., by simp⟩

theorem VariableMeta.agrees_decoder : VariableMeta.decoder.Agrees := by
  apply RecordType.agrees_decoder
  simp only [VariableMeta.type, List.forall_mem_cons]
  exact ⟨Field.agrees_of Decoder.agrees_flag .., by simp⟩

theorem Metadata.agrees_decoder : Metadata.decoder.Agrees := by
  apply RecordType.agrees_decoder
  simp only [Metadata.type, List.forall_mem_cons]
  exact ⟨Field.agrees_of Decoder.agrees_text ..,
    Field.agrees_of (Decoder.agrees_map EntityMeta.agrees_decoder) ..,
    Field.agrees_of (Decoder.agrees_map VariableMeta.agrees_decoder) .., by simp⟩

theorem Reform.agrees_decoder : Reform.decoder.Agrees := by
  apply RecordType.agrees_decoder
  simp only [Reform.type, List.forall_mem_cons]
  have schedules := Decoder.agrees_map (Decoder.agrees_map ParameterValue.agrees_decoder)
  exact ⟨Field.agrees_of schedules .., by simp⟩

theorem Policy.agrees_decoder : Policy.decoder.Agrees := by
  apply RecordType.agrees_decoder
  simp only [Policy.type, List.forall_mem_cons]
  exact ⟨Field.agrees_of Reform.agrees_decoder .., by simp⟩

namespace Request

theorem agrees_decoder : decoder.Agrees := by
  apply RecordType.agrees_decoder
  simp only [type, List.forall_mem_cons]
  exact ⟨Field.agrees_of Scope.agrees_decoder .., Field.agrees_of Metadata.agrees_decoder ..,
    Field.agrees_of Policy.agrees_decoder .., Field.agrees_of Decoder.agrees_text ..,
    Field.agrees_of (Decoder.agrees_nullable Year.agrees_decoder) ..,
    Field.agrees_of (Decoder.agrees_nullable Decoder.agrees_any) ..,
    Field.agrees_of Decoder.agrees_flag .., by simp⟩

end Request

end SimulationScript
