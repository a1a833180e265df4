import SimulationScript.Proofs.Plan.Entries
import SimulationScript.Proofs.Script.Precedence

/-! # The reform that a script uses

The class of the reform is defined by one part of a script and handed over by two others. The
simulation of a household hands it over only if the request has a reform; the comparison of the
population always does.
-/

namespace SimulationScript.Plan

open Script

variable {plan : Plan} {lines : List String}

def reformEntry : String := "class reform(Reform):"

/-- The comparison hands the reform over. -/
def reformedUse : String := "reformed = Microsimulation(reform=reform)"

/-- The simulation of a household hands the reform over. -/
def argumentUse : String := "    reform=reform,"

def reformUses : List String := [reformedUse, argumentUse]

theorem hasReform_iff : plan.hasReform ↔ ¬ plan.request.policy.reform.isEmpty := by
  simp [hasReform, reform]

theorem reformEntry_mem_reformDefinition (h : plan.reformDefinition = .ok lines) :
    reformEntry ∈ lines ↔ plan.hasReform := by
  rw [reformDefinition_eq_ok] at h
  split at h
  case isTrue reformed =>
      obtain ⟨tax, updates, _, _, rfl⟩ := h
      have inClass : reformEntry ∈ reformClass "reform" "modify_parameters" := by decide
      exact iff_of_true (List.mem_append_right _ inClass) reformed
  case isFalse unreformed =>
      subst h
      exact iff_of_false List.not_mem_nil unreformed

/-- What defines the reform or hands it over stands neither among the imports nor in the baseline. -/
theorem not_mem_head {line : String} (hline : line ∈ reformEntry :: reformUses)
    (h : plan.baseline = .ok lines) : line ∉ plan.imports ∧ line ∉ lines := by
  have never : ∀ line ∈ reformEntry :: reformUses,
      ¬ importsShape.Fits line ∧ ¬ baselineShape.Fits line := by
    decide
  obtain ⟨notImported, notInBaseline⟩ := never line hline
  exact ⟨fun member => notImported (imports_fit member),
    fun member => notInBaseline (baseline_fits h member)⟩

theorem reformUse_not_mem_reformDefinition {use : String} (huse : use ∈ reformUses)
    (h : plan.reformDefinition = .ok lines) : use ∉ lines := by
  intro member
  have never : ∀ use ∈ reformUses, ¬ reformShape.Fits use := by decide
  exact never use huse (reformDefinition_fits h member)

theorem argumentUse_mem_simulationLines {situation : Json} :
    argumentUse ∈ plan.simulationLines situation ↔ plan.hasReform := by
  constructor
  · intro member
    have onlyThen : ∀ reformed, (simulationShape reformed).Fits argumentUse → reformed = true := by
      decide
    exact onlyThen _ (simulationLines_fit member)
  · intro reformed
    simp [simulationLines, reformed, argumentUse]

theorem not_mem_householdSimulation {normaliser : Normaliser} {line : String}
    (hline : line ∈ [reformEntry, reformedUse])
    (h : plan.householdSimulation normaliser = .ok lines) : line ∉ lines := by
  intro member
  have never : ∀ line ∈ [reformEntry, reformedUse], ∀ reformed,
      ¬ (simulationShape reformed).Fits line := by
    decide
  exact never line hline _ (householdSimulation_fits h member)

theorem reformedUse_mem_comparison : reformedUse ∈ plan.comparison ↔ plan.request.scope = .policy := by
  unfold comparison
  cases plan.request.scope with
  | household => simp
  | policy => simp [reformedUse]

theorem not_mem_comparison {line : String} (hline : line ∈ [reformEntry, argumentUse]) :
    line ∉ plan.comparison := by
  intro member
  have never : ∀ line ∈ [reformEntry, argumentUse], ¬ comparisonShape.Fits line := by decide
  exact never line hline (comparison_fits member)

section WholeScript

variable {normaliser : Normaliser} {script : Script}

theorem reformEntry_mem_script (h : plan.script normaliser = .ok script) :
    reformEntry ∈ script.lines ↔ plan.hasReform := by
  obtain ⟨baseline, reform, simulation, hbaseline, hreform, hsimulation, rfl⟩ := script_eq_ok.mp h
  have head := not_mem_head (show reformEntry ∈ reformEntry :: reformUses by decide) hbaseline
  have tail : reformEntry ∉ plan.comparison := not_mem_comparison (by decide)
  have middle : reformEntry ∉ simulation := not_mem_householdSimulation (by decide) hsimulation
  simp [head, middle, tail, reformEntry_mem_reformDefinition hreform]

theorem reformedUse_mem_script (h : plan.script normaliser = .ok script) :
    reformedUse ∈ script.lines ↔ plan.request.scope = .policy := by
  obtain ⟨baseline, reform, simulation, hbaseline, hreform, hsimulation, rfl⟩ := script_eq_ok.mp h
  have head := not_mem_head (show reformedUse ∈ reformEntry :: reformUses by decide) hbaseline
  have defined : reformedUse ∉ reform := reformUse_not_mem_reformDefinition (by decide) hreform
  have middle : reformedUse ∉ simulation := not_mem_householdSimulation (by decide) hsimulation
  simp [head, defined, middle, reformedUse_mem_comparison]

theorem argumentUse_mem_script (h : plan.script normaliser = .ok script) :
    argumentUse ∈ script.lines ↔ plan.request.scope = .household ∧ plan.hasReform := by
  obtain ⟨baseline, reform, simulation, hbaseline, hreform, hsimulation, rfl⟩ := script_eq_ok.mp h
  have head := not_mem_head (show argumentUse ∈ reformEntry :: reformUses by decide) hbaseline
  have defined : argumentUse ∉ reform := reformUse_not_mem_reformDefinition (by decide) hreform
  have tail : argumentUse ∉ plan.comparison := not_mem_comparison (by decide)
  have middle : argumentUse ∈ simulation ↔ plan.request.scope = .household ∧ plan.hasReform := by
    rw [householdSimulation_eq_ok] at hsimulation
    split at hsimulation
    case h_1 population => simp [hsimulation, population]
    case h_2 single =>
        obtain ⟨situation, _, rfl⟩ := hsimulation
        simp [argumentUse_mem_simulationLines, single]
  simp [head, defined, tail, middle]

/-- A reform that is defined is defined before it is handed over. -/
theorem reformEntry_precedes (h : plan.script normaliser = .ok script) (reformed : plan.hasReform)
    {use : String} (huse : use ∈ reformUses) : Precedes reformEntry use script.lines := by
  obtain ⟨baseline, reform, simulation, hbaseline, hreform, hsimulation, rfl⟩ := script_eq_ok.mp h
  have there : reformEntry ∈ reform := (reformEntry_mem_reformDefinition hreform).mpr reformed
  have head := not_mem_head (List.mem_cons_of_mem reformEntry huse) hbaseline
  rw [List.append_assoc]
  apply precedes_append
  · simp [there]
  · simp [head, reformUse_not_mem_reformDefinition huse hreform]

end WholeScript

/-- The reform is handed over only after it has been defined, unless a population run has no reform:
    the comparison hands it over even then. Otherwise the class is there exactly for a reform, the
    comparison uses it in population runs and the simulation of a household if there is a reform. -/
theorem reform_defined_before_use {normaliser : Normaliser} {config : Config} {request : Request}
    {script : Script} (generated : generate normaliser config request = .ok script) :
    ((∀ use ∈ reformUses, Precedes reformEntry use script.lines) ↔
      ¬ (request.scope = .policy ∧ request.policy.reform.isEmpty)) ∧
    (reformEntry ∈ script.lines ↔ ¬ request.policy.reform.isEmpty) ∧
    (reformedUse ∈ script.lines ↔ request.scope = .policy) ∧
    (argumentUse ∈ script.lines ↔ request.scope = .household ∧ ¬ request.policy.reform.isEmpty) := by
  let plan : Plan := ⟨request, config⟩
  have reformed : plan.hasReform ↔ ¬ request.policy.reform.isEmpty := hasReform_iff
  have defined : reformEntry ∈ script.lines ↔ plan.hasReform := reformEntry_mem_script generated
  have compared : reformedUse ∈ script.lines ↔ request.scope = .policy :=
    reformedUse_mem_script generated
  have simulated : argumentUse ∈ script.lines ↔ request.scope = .household ∧ plan.hasReform :=
    argumentUse_mem_script generated
  refine ⟨?_, defined.trans reformed, compared,
    simulated.trans (and_congr_right fun _ => reformed)⟩
  constructor
  · intro ordered unreformed
    obtain ⟨population, noneNamed⟩ := unreformed
    have there := (ordered reformedUse (by decide)).mem (compared.mpr population)
    exact reformed.mp (defined.mp there) noneNamed
  · intro covered use huse
    by_cases named : plan.hasReform
    · exact reformEntry_precedes generated named huse
    · have single : request.scope = .household := by
        have noneNamed : request.policy.reform.isEmpty := by simpa [reformed] using named
        cases scope : request.scope with
        | household => rfl
        | policy => exact absurd ⟨scope, noneNamed⟩ covered
      apply precedes_of_not_mem
      simp only [reformUses, List.mem_cons, List.not_mem_nil, or_false] at huse
      rcases huse with rfl | rfl
      · simp [compared, single]
      · simp [simulated, named]

/-- A household simulation with a reform. -/
def reformedHousehold : Request :=
  (Request.ofHousehold (.ofPackage "policyengine_us")
    (.obj [("people", .obj [("you", .obj [])])])).withReform
      (Reform.empty.withUpdate ⟨"gov.a", "2024-01-01.2024-12-31", .flag true⟩)

theorem reformedHousehold_defines_before_use :
    ∃ script, generate .schema .standard reformedHousehold = .ok script ∧
      argumentUse ∈ script.lines ∧ ∀ use ∈ reformUses, Precedes reformEntry use script.lines := by
  obtain ⟨script, generated⟩ : ∃ script, generate .schema .standard reformedHousehold = .ok script :=
    ⟨_, rfl⟩
  obtain ⟨ordered, _, _, simulated⟩ := reform_defined_before_use generated
  exact ⟨script, generated, simulated.mpr (by decide), ordered.mpr (by decide)⟩

/-- A population run without a reform. -/
def unreformedRun : Request :=
  Request.ofRegion (.ofPackage "policyengine_uk") "uk"

theorem unreformedRun_uses_undefined_reform :
    ∃ script, generate .schema .standard unreformedRun = .ok script ∧
      reformedUse ∈ script.lines ∧ ¬ Precedes reformEntry reformedUse script.lines := by
  refine ⟨_, rfl, by decide, ?_⟩
  intro ordered
  have defined := ordered.mem (by decide)
  revert defined
  decide

end SimulationScript.Plan
