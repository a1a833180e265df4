import SimulationScript.Proofs.Plan.Entries
import SimulationScript.Proofs.Script.Precedence

/-! # Classes that a script uses

The baseline simulation takes a class that another part of the script defines. Both parts decide for
themselves whether there is a baseline reform, one by whether the reform names a parameter, the
other by whether it has a span.
-/

namespace SimulationScript.Plan

open Script

variable {plan : Plan} {lines : List String}

/-- An entry is used exactly when another is there to define it, and then comes after it. -/
def UsedIffDefined (definition use : String) (lines : List String) : Prop :=
  (use ∈ lines ↔ definition ∈ lines) ∧ Precedes definition use lines

def baselineClass : String := "class baseline_reform(Reform):"

def baselineUse : String := "baseline = Microsimulation(reform=baseline_reform)"

theorem baselineClass_mem_baselineDefinition (span : Span) :
    baselineClass ∈ baselineDefinition span := by
  simp [baselineDefinition, reformClass, baselineClass]

theorem baselineClass_mem_baseline (h : plan.baseline = .ok lines) :
    baselineClass ∈ lines ↔ plan.reportsStateTax ∧ plan.reform.updates ≠ [] := by
  rw [baseline_eq_overSpan] at h
  obtain ⟨span, resolved, rfl⟩ := overSpan_eq_ok.mp h
  rw [← isSome_taxSpan resolved]
  cases span with
  | none => simp
  | some span => simp [baselineClass_mem_baselineDefinition]

theorem baselineUse_eq_iff :
    baselineUse = "baseline = Microsimulation(" ++ plan.baselineArgument ++ ")" ↔
      plan.isUsRegion ∧ plan.hasReform := by
  unfold baselineArgument
  cases plan.isUsRegion <;> cases plan.hasReform <;> decide

theorem baselineUse_mem_comparison :
    baselineUse ∈ plan.comparison ↔ plan.reportsStateTax ∧ plan.hasReform := by
  have notBaseline : baselineUse ∉ plan.personResult "baseline" := fun member =>
    absurd (personResult_begin member) (by decide)
  have notReformed : baselineUse ∉ plan.personResult "reformed" := fun member =>
    absurd (personResult_begin member) (by decide)
  have notFixed : baselineUse ∉ comparisonShape.fixed := by decide
  simp only [comparisonShape, List.mem_cons, List.not_mem_nil, or_false, not_or] at notFixed
  unfold comparison reportsStateTax
  cases plan.request.scope with
  | household => simp
  | policy => simp [baselineUse_eq_iff, notBaseline, notReformed, notFixed]

/-- Neither the class nor its use can stand among the imports, in the reform or in the simulation of
    a household. -/
theorem not_mem_elsewhere {normaliser : Normaliser} {reform simulation : List String} {line : String}
    (hline : line ∈ [baselineClass, baselineUse]) (hreform : plan.reformDefinition = .ok reform)
    (hsimulation : plan.householdSimulation normaliser = .ok simulation) :
    line ∉ plan.imports ∧ line ∉ reform ∧ line ∉ simulation := by
  have never : ∀ line ∈ [baselineClass, baselineUse], ¬ importsShape.Fits line ∧
      ¬ reformShape.Fits line ∧ ∀ reformed, ¬ (simulationShape reformed).Fits line := by
    decide
  obtain ⟨notImported, notInReform, notSimulated⟩ := never line hline
  exact ⟨fun member => notImported (imports_fit member),
    fun member => notInReform (reformDefinition_fits hreform member),
    fun member => notSimulated _ (householdSimulation_fits hsimulation member)⟩

theorem baselineUse_not_mem_baseline (h : plan.baseline = .ok lines) : baselineUse ∉ lines := by
  intro member
  exact absurd (baseline_fits h member) (by decide)

theorem baselineClass_not_mem_comparison : baselineClass ∉ plan.comparison := by
  intro member
  exact absurd (comparison_fits member) (by decide)

section WholeScript

variable {normaliser : Normaliser} {script : Script}

theorem baselineUse_mem_script (h : plan.script normaliser = .ok script) :
    baselineUse ∈ script.lines ↔ plan.reportsStateTax ∧ plan.hasReform := by
  obtain ⟨baseline, reform, simulation, hbaseline, hreform, hsimulation, rfl⟩ := script_eq_ok.mp h
  have elsewhere := not_mem_elsewhere (show baselineUse ∈ _ by simp) hreform hsimulation
  simp [elsewhere, baselineUse_not_mem_baseline hbaseline, baselineUse_mem_comparison]

theorem baselineClass_mem_script (h : plan.script normaliser = .ok script) :
    baselineClass ∈ script.lines ↔ plan.reportsStateTax ∧ plan.reform.updates ≠ [] := by
  obtain ⟨baseline, reform, simulation, hbaseline, hreform, hsimulation, rfl⟩ := script_eq_ok.mp h
  have elsewhere := not_mem_elsewhere (show baselineClass ∈ _ by simp) hreform hsimulation
  simp [elsewhere, baselineClass_mem_baseline hbaseline, baselineClass_not_mem_comparison]

theorem baselineClass_precedes (h : plan.script normaliser = .ok script)
    (defined : baselineClass ∈ script.lines) :
    Precedes baselineClass baselineUse script.lines := by
  have updated := (baselineClass_mem_script h).mp defined
  obtain ⟨baseline, reform, simulation, hbaseline, hreform, hsimulation, rfl⟩ := script_eq_ok.mp h
  have elsewhere := not_mem_elsewhere (show baselineUse ∈ _ by simp) hreform hsimulation
  have there : baselineClass ∈ baseline := (baselineClass_mem_baseline hbaseline).mpr updated
  apply precedes_append
  · simp [there]
  · simp [elsewhere, baselineUse_not_mem_baseline hbaseline]

end WholeScript

/-- The baseline reform is used exactly when it is defined before, unless the reform of a population
    run of a US region names parameters without giving any of them a value. Then it is used without
    a definition; a definition is never left unused. -/
theorem baseline_reform_used_iff_defined {normaliser : Normaliser} {config : Config}
    {request : Request} {script : Script} (generated : generate normaliser config request = .ok script) :
    (UsedIffDefined baselineClass baselineUse script.lines ↔
      ¬ (request.scope = .policy ∧ config.isUsRegion request.region ∧
        ¬ request.policy.reform.isEmpty ∧ request.policy.reform.updates = [])) ∧
    (baselineClass ∈ script.lines → baselineUse ∈ script.lines) := by
  let plan : Plan := ⟨request, config⟩
  have used : baselineUse ∈ script.lines ↔ plan.reportsStateTax ∧ plan.hasReform :=
    baselineUse_mem_script generated
  have defined : baselineClass ∈ script.lines ↔ plan.reportsStateTax ∧ plan.reform.updates ≠ [] :=
    baselineClass_mem_script generated
  have leftOut : (request.scope = .policy ∧ config.isUsRegion request.region ∧
      ¬ request.policy.reform.isEmpty ∧ request.policy.reform.updates = []) ↔
        plan.reportsStateTax ∧ plan.hasReform ∧ plan.reform.updates = [] := by
    rw [reportsStateTax_iff]
    simp [plan, isUsRegion, hasReform, Plan.reform, and_assoc]
  have usedOfDefined (h : baselineClass ∈ script.lines) : baselineUse ∈ script.lines :=
    used.mpr ⟨(defined.mp h).1, hasReform_of_updates (defined.mp h).2⟩
  refine ⟨?_, usedOfDefined⟩
  rw [leftOut]
  constructor
  · intro agrees unscheduled
    obtain ⟨same, _⟩ := agrees
    obtain ⟨reports, named, noUpdates⟩ := unscheduled
    exact (defined.mp (same.mp (used.mpr ⟨reports, named⟩))).2 noUpdates
  · intro agrees
    have definedOfUsed (h : baselineUse ∈ script.lines) : baselineClass ∈ script.lines := by
      obtain ⟨reports, named⟩ := used.mp h
      exact defined.mpr ⟨reports, fun noUpdates => agrees ⟨reports, named, noUpdates⟩⟩
    refine ⟨⟨definedOfUsed, usedOfDefined⟩, ?_⟩
    by_cases there : baselineClass ∈ script.lines
    · exact baselineClass_precedes generated there
    · exact precedes_of_not_mem fun h => there (definedOfUsed h)

/-- A population run of a US region with one update. -/
def updatedRun : Request :=
  (Request.ofRegion (.ofPackage "policyengine_us") "us").withReform
    (Reform.empty.withUpdate ⟨"gov.a.b", "2023-01-01.2023-12-31", .flag true⟩)

def updatedScript : Script :=
  ⟨["from policyengine_us import Microsimulation", reformImport, instantImport] ++
    baselineDefinition ⟨"2023-01-01", "2023-12-31"⟩ ++
    ["", "", "def modify_parameters(parameters):"] ++ taxBlock ⟨"2023-01-01", "2023-12-31"⟩ ++
    updateBlock "gov.a.b" "2023-01-01" "2023-12-31" "True" ++
    reformClass "reform" "modify_parameters" ++
    [baselineUse, "reformed = Microsimulation(reform=reform)",
      "baseline_person = baseline.calc(\"household_net_income\",",
      "    period=2024, map_to=\"person\")",
      "reformed_person = reformed.calc(\"household_net_income\",",
      "    period=2024, map_to=\"person\")",
      "difference_person = reformed_person - baseline_person"]⟩

theorem updatedRun_uses_what_it_defines :
    generate .passthrough .standard updatedRun = .ok updatedScript ∧
      UsedIffDefined baselineClass baselineUse updatedScript.lines :=
  have generated : generate .passthrough .standard updatedRun = .ok updatedScript := by decide
  ⟨generated, (baseline_reform_used_iff_defined generated).1.mpr (by decide)⟩

/-- A population run of a US region whose reform names a parameter without an interval. -/
def unscheduledRun : Request :=
  (Request.ofRegion (.ofPackage "policyengine_us") "us").withReform ⟨.ofList [("gov.a", .empty)]⟩

theorem unscheduledRun_uses_undefined_class :
    ∃ script, generate .passthrough .standard unscheduledRun = .ok script ∧
      baselineUse ∈ script.lines ∧ baselineClass ∉ script.lines ∧
      ¬ UsedIffDefined baselineClass baselineUse script.lines := by
  refine ⟨_, rfl, by decide, by decide, ?_⟩
  intro agrees
  obtain ⟨same, _⟩ := agrees
  revert same
  decide

end SimulationScript.Plan
