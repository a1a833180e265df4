import SimulationScript.Command.Run
import SimulationScript.Proofs.Plan.Success

/-! # Validation against generation

Validating a request resolves the span of its policy, whatever its scope and region, and looks at
nothing else. Generating a script reads dates only for the population of US regions, and needs a
household in household scope. Apart from these two conditions both accept the same requests.
-/

namespace SimulationScript

/-- In household scope, the request comes with a household made of groups. -/
def Request.HouseholdFits (request : Request) : Prop :=
  request.scope = .household → ∃ groups, request.household = some (.obj groups)

namespace Command

theorem isOk_checkRequest {request : Request} :
    (checkRequest request).isOk ↔
      (∀ update ∈ request.policy.reform.updates, (Interval.ofKey update.interval).isOk) ∧
        request.policy.EndpointsAreDates :=
  Policy.isOk_span_iff

theorem isOk_generateScript {config : Config} {request : Request} :
    (generateScript config request).isOk ↔
      (request.scope = .policy → config.isUsRegion request.region → request.policy.span.isOk) ∧
        (∀ update ∈ request.policy.reform.updates, (Interval.ofKey update.interval).isOk) ∧
        request.HouseholdFits := by
  simp only [generateScript, generate, Plan.isOk_script, Plan.baseline_eq_overSpan,
    Plan.isOk_overSpan, Plan.isOk_reformDefinition, Plan.isOk_householdSimulation_schema,
    Plan.reportsStateTax_iff, Plan.isUsRegion, Plan.reform, Request.HouseholdFits]
  tauto

/-- Generation accepts, of the requests whose endpoints are all dates, exactly those that validation
    accepts and whose household fits; and for the population of US regions, where generation reads
    the dates itself, both accept the same requests. -/
theorem validation_agrees_with_generation (config : Config) (request : Request) :
    ((checkRequest request).isOk ∧ request.HouseholdFits ↔
      (generateScript config request).isOk ∧ request.policy.EndpointsAreDates) ∧
    (request.scope = .policy → config.isUsRegion request.region →
      ((checkRequest request).isOk ↔ (generateScript config request).isOk)) := by
  have checked : (checkRequest request).isOk ↔ request.policy.span.isOk := Iff.rfl
  have dated : (checkRequest request).isOk ↔ _ := isOk_checkRequest
  have generated : (generateScript config request).isOk ↔ _ := isOk_generateScript
  constructor
  · constructor
    · intro both
      obtain ⟨accepted, fits⟩ := both
      obtain ⟨split, dates⟩ := dated.mp accepted
      exact ⟨generated.mpr ⟨fun _ _ => checked.mp accepted, split, fits⟩, dates⟩
    · intro both
      obtain ⟨made, dates⟩ := both
      obtain ⟨_, split, fits⟩ := generated.mp made
      exact ⟨dated.mpr ⟨split, dates⟩, fits⟩
  · intro population us
    have fits : request.HouseholdFits := by
      intro household
      rw [population] at household
      cases household
    constructor
    · intro accepted
      exact generated.mpr ⟨fun _ _ => checked.mp accepted, (dated.mp accepted).1, fits⟩
    · intro made
      exact checked.mpr ((generated.mp made).1 population us)

def usRequest : Request :=
  (Request.ofRegion (.ofPackage "policyengine_us") "us").withReform
    (Reform.empty.withUpdate ⟨"gov.a", "2024-01-01.2024-12-31", .flag true⟩)

theorem validation_of_us_request :
    usRequest.scope = .policy ∧ Config.standard.isUsRegion usRequest.region ∧
    ((checkRequest usRequest).isOk ↔ (generateScript .standard usRequest).isOk) :=
  ⟨rfl, rfl, (validation_agrees_with_generation .standard usRequest).2 rfl rfl⟩

def withoutHousehold : Request :=
  { Request.ofRegion (.ofPackage "policyengine_us") "" with scope := .household }

def withoutDates : Request :=
  (Request.ofRegion (.ofPackage "policyengine_uk") "uk").withReform
    (Reform.empty.withUpdate ⟨"gov.a", "soon.later", .flag true⟩)

/-- Validation accepts a request without its household, of which no script can be made, and refuses
    dates that no part of a script reads. -/
theorem validation_differs_from_generation :
    ((checkRequest withoutHousehold).isOk ∧ ¬ (generateScript .standard withoutHousehold).isOk) ∧
    (¬ (checkRequest withoutDates).isOk ∧ (generateScript .standard withoutDates).isOk) := by
  decide

end Command

end SimulationScript
