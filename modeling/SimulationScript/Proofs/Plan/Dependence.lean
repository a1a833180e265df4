import SimulationScript.Proofs.Plan.Failure
import SimulationScript.Proofs.Plan.Situation

/-! # What a script depends on

A population run reads nothing that is said about one household, and of its region only whether it is
a US region. A household run does not read its region at all. Two runs that agree on what their scope
reads therefore come out alike, be it with the same script or with the same error.
-/

namespace SimulationScript

namespace Plan

variable {left right : Plan} {normaliser normaliser' : Normaliser}

/-! ## Imports and definitions -/

/-- Two plans that agree on all that imports and definitions are made from. -/
structure SameHead (left right : Plan) : Prop where
  scope : left.request.scope = right.request.scope
  package : left.request.info.package = right.request.info.package
  policy : left.request.policy = right.request.policy
  reportsStateTax : left.reportsStateTax = right.reportsStateTax

theorem SameHead.reform_eq (same : SameHead left right) : left.reform = right.reform := by
  rw [reform, reform, same.policy]

theorem SameHead.hasReform_eq (same : SameHead left right) : left.hasReform = right.hasReform := by
  rw [hasReform, hasReform, same.reform_eq]

theorem SameHead.imports_eq (same : SameHead left right) : left.imports = right.imports := by
  rw [imports, imports, same.scope, same.package, same.hasReform_eq]

theorem SameHead.overSpan_eq (same : SameHead left right) : left.overSpan = right.overSpan := by
  funext block
  rw [overSpan, overSpan, same.reportsStateTax, same.policy]

theorem SameHead.baseline_eq (same : SameHead left right) : left.baseline = right.baseline := by
  rw [baseline_eq_overSpan, baseline_eq_overSpan, same.overSpan_eq]

theorem SameHead.reformDefinition_eq (same : SameHead left right) :
    left.reformDefinition = right.reformDefinition := by
  rw [reformDefinition, reformDefinition, injectedTaxBlock_eq_overSpan, injectedTaxBlock_eq_overSpan,
    same.overSpan_eq, same.hasReform_eq, same.reform_eq]

/-- With the same head, only what is simulated can tell two scripts apart. -/
theorem SameHead.script_eq (same : SameHead left right)
    (simulation : left.householdSimulation normaliser = right.householdSimulation normaliser')
    (comparison : left.comparison = right.comparison) :
    left.script normaliser = right.script normaliser' := by
  rw [script, script, same.imports_eq, same.baseline_eq, same.reformDefinition_eq, simulation,
    comparison]

/-! ## Population runs -/

/-- Two population runs that agree on all that such a run reads. -/
structure SamePopulationRun (left right : Plan) : Prop where
  leftPopulation : left.request.scope = .policy
  rightPopulation : right.request.scope = .policy
  package : left.request.info.package = right.request.info.package
  policy : left.request.policy = right.request.policy
  usRegion : left.isUsRegion = right.isUsRegion
  year : left.year = right.year
  outputVariable : left.config.outputVariable = right.config.outputVariable

theorem SamePopulationRun.sameHead (same : SamePopulationRun left right) : SameHead left right where
  scope := same.leftPopulation.trans same.rightPopulation.symm
  package := same.package
  policy := same.policy
  reportsStateTax := by
    simp only [reportsStateTax, same.leftPopulation, same.rightPopulation, same.usRegion]

theorem SamePopulationRun.comparison_eq (same : SamePopulationRun left right) :
    left.comparison = right.comparison := by
  have samePersonResult : left.personResult = right.personResult := by
    funext simulation
    rw [personResult, personResult, same.outputVariable, same.year]
  have sameArgument : left.baselineArgument = right.baselineArgument := by
    rw [baselineArgument, baselineArgument, same.usRegion, same.sameHead.hasReform_eq]
  rw [comparison, comparison, same.leftPopulation, same.rightPopulation, samePersonResult,
    sameArgument]

theorem SamePopulationRun.script_eq (same : SamePopulationRun left right) :
    left.script normaliser = right.script normaliser' := by
  apply same.sameHead.script_eq _ same.comparison_eq
  rw [householdSimulation_of_policy same.leftPopulation,
    householdSimulation_of_policy same.rightPopulation]

/-! ## Household runs -/

/-- The same run in another region, with other regions configured as US regions. -/
def moved (plan : Plan) (region : String) (usRegions : List String) : Plan :=
  ⟨{ plan.request with region }, { plan.config with usRegions }⟩

theorem sameHead_moved (single : left.request.scope = .household) (region : String)
    (usRegions : List String) : SameHead left (left.moved region usRegions) where
  scope := rfl
  package := rfl
  policy := rfl
  reportsStateTax := by simp only [reportsStateTax, moved, single]

theorem script_moved (single : left.request.scope = .household) (region : String)
    (usRegions : List String) :
    left.script normaliser = (left.moved region usRegions).script normaliser := by
  have sameComparison : left.comparison = (left.moved region usRegions).comparison := by
    simp only [comparison, moved, single]
  -- neither the household nor what becomes of it mentions a region
  exact (sameHead_moved single region usRegions).script_eq rfl sameComparison

end Plan

open Plan

/-- Population runs that agree on the package, the policy, whether the region is a US region, the
    resolved year and the variable to compute come out alike under any normalisers, and household runs
    come out alike wherever they take place. -/
theorem generate_reads_only_its_scope (normaliser : Normaliser) (config : Config)
    (request : Request) :
    (∀ normaliser' config' request', SamePopulationRun ⟨request, config⟩ ⟨request', config'⟩ →
      generate normaliser config request = generate normaliser' config' request') ∧
    (request.scope = .household → ∀ region usRegions,
      generate normaliser config request =
        generate normaliser { config with usRegions } { request with region }) :=
  ⟨fun _ _ _ same => same.script_eq, fun single => script_moved single⟩

/-- A nationwide population run. -/
def nationwideRun : Request :=
  (Request.ofRegion (.ofPackage "policyengine_us") "us").withReform
    (Reform.empty.withUpdate ⟨"gov.a", "2025-01-01.2025-12-31", .flag true⟩)

/-- The same population run with everything else that a request can hold, and its year spelled out. -/
def crowdedRun : Request :=
  { nationwideRun with
    info := smallPackage
    region := "enhanced_us"
    year := some .standard
    household := some .null
    earningVariation := true }

/-- Another axis and another default year than the standard ones. -/
def otherConfig : Config :=
  { Config.standard with defaultYear := ⟨2030⟩, earningAxis := ⟨"pension_income", 2, 0, 1⟩ }

theorem runs_agree_on_their_scope :
    SamePopulationRun ⟨nationwideRun, .standard⟩ ⟨crowdedRun, otherConfig⟩ ∧
      generate .schema .standard nationwideRun = generate .passthrough otherConfig crowdedRun ∧
      (generate .schema .standard nationwideRun).isOk ∧
      sweptHousehold.scope = .household ∧
      generate .schema .standard sweptHousehold =
        generate .schema { Config.standard with usRegions := ["uk"] }
          { sweptHousehold with region := "uk" } := by
  have same : SamePopulationRun ⟨nationwideRun, .standard⟩ ⟨crowdedRun, otherConfig⟩ := by
    constructor <;> decide
  refine ⟨same, ?_, by decide, rfl, ?_⟩
  · exact (generate_reads_only_its_scope .schema .standard nationwideRun).1 _ _ _ same
  · exact (generate_reads_only_its_scope .schema .standard sweptHousehold).2 rfl "uk" ["uk"]

end SimulationScript
