import SimulationScript.Proofs.Json.Transcript
import SimulationScript.Proofs.Request.RoundTrip

/-! # Requests read in one pass or in two

A request is read off a text at once, or its text is first read as a value and the value as a request.
Where no object of the text names anything twice, both ways come to one request or to none.
-/

namespace SimulationScript.Request

open Json

theorem read_in_one_pass_iff_in_two {text : String} {value : Json} (parsed : parse text = .ok value)
    (once : NamesOnce text) (request : Request) :
    decoder.ofDocument text = .ok request ↔ decoder.ofJson value = .ok request := by
  have document : IsDocumentOf text value := document_iff.mpr ⟨parsed, once⟩
  exact agrees_decoder.ofDocument_iff document request

theorem careless_request_read_in_one_pass :
    parse carelessValue.compactText = .ok carelessValue ∧ NamesOnce carelessValue.compactText ∧
      decoder.ofJson carelessValue = .ok carelessRequest ∧
      decoder.ofDocument carelessValue.compactText = .ok carelessRequest := by
  obtain ⟨parsed, once⟩ := document_iff.mp (document_compact readable_carelessValue)
  have decoded : decoder.ofJson carelessValue = .ok carelessRequest := rfl
  exact ⟨parsed, once, decoded,
    (read_in_one_pass_iff_in_two parsed once carelessRequest).mpr decoded⟩

end SimulationScript.Request
