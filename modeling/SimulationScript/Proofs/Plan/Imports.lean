import SimulationScript.Proofs.Literal.Respelling
import SimulationScript.Proofs.Plan.Definedness
import SimulationScript.Proofs.Plan.Failure
import SimulationScript.Proofs.Plan.ReformUse

/-! # What a script imports

The imports go by the scope and by whether the request names any parameter, while each part of a
script has conditions of its own for what it says. Still nothing is used that is not imported before,
the base class of reforms is not imported in vain, and the simulation class is the one that is used.
-/

namespace SimulationScript.Plan

open Script

variable {plan : Plan} {lines : List String} {line : String}

/-- The entries that derive a class from the base class of reforms. -/
def reformClasses : List String := [reformEntry, baselineClass]

/-- The entry calls for an instant. -/
def CallsInstant (entry : String) : Prop :=
  "instant(".toList <:+: entry.toList

/-- The entry names an object of a class: behind its first word stand an equals sign, the class and a
    bracket. -/
def Constructs (className entry : String) : Prop :=
  (" = " ++ className ++ "(").toList <+: entry.toList.dropWhile (· != ' ')

instance (className entry : String) : Decidable (Constructs className entry) :=
  inferInstanceAs (Decidable (_ <+: _))

/-- The entry that imports the simulation class of a scope. -/
def classImport (package : String) (scope : Scope) : String :=
  "from " ++ package ++ " import " ++ scope.simulationClass

/-- The import of each thing that a script uses stands before its uses. -/
structure ImportsWhatItUses (plan : Plan) (script : Script) : Prop where
  derived : reformImport ∈ script.lines ↔ ∃ entry ∈ reformClasses, entry ∈ script.lines
  derivedLater : ∀ entry ∈ reformClasses, Precedes reformImport entry script.lines
  /-- Wherever a definition calls for an instant. -/
  instants : ∀ baseline reform, plan.baseline = .ok baseline → plan.reformDefinition = .ok reform →
    ∀ entry ∈ baseline ++ reform, CallsInstant entry → Precedes instantImport entry script.lines
  /-- Of the two simulation classes, the entries behind the import use the one that it imports. -/
  simulations : ∃ rest,
    script.lines = classImport plan.request.info.package plan.request.scope :: rest ∧
      ∀ scope : Scope, (∃ entry ∈ rest, Constructs scope.simulationClass entry) ↔
        scope = plan.request.scope

/-! ## The imports of reforms -/

/-- Whatever the package is called, its import ends like the name of a simulation class. -/
theorem ne_classImport {package : String} {scope : Scope} (among : line ∈ [reformImport, instantImport]) :
    line ≠ classImport package scope := by
  rintro rfl
  have ends : (classImport package scope).toList.getLast? = some 'n' := by
    cases scope <;> simp [classImport, Scope.simulationClass, List.getLast?_cons]
  have others : ∀ line ∈ [reformImport, instantImport], line.toList.getLast? ≠ some 'n' := by decide
  exact others _ among ends

theorem mem_imports_iff (among : line ∈ [reformImport, instantImport]) :
    line ∈ plan.imports ↔ plan.hasReform := by
  have other : line ≠ "from " ++ plan.request.info.package ++ " import " ++
      plan.request.scope.simulationClass := ne_classImport among
  rw [imports, List.mem_cons, or_iff_right other]
  split
  case isTrue reformed => exact iff_of_true among reformed
  case isFalse unreformed => exact iff_of_false List.not_mem_nil unreformed

theorem hasReform_of_mem_baseline (h : plan.baseline = .ok lines) (member : line ∈ lines) :
    plan.hasReform := by
  rw [baseline_eq_overSpan] at h
  obtain ⟨span, resolved, _⟩ := (mem_overSpan_iff h).mp member
  exact hasReform_of_updates ((isSome_taxSpan resolved).mp rfl).2

theorem hasReform_of_mem_reformDefinition (h : plan.reformDefinition = .ok lines)
    (member : line ∈ lines) : plan.hasReform := by
  rw [reformDefinition_eq_ok] at h
  split at h
  case isTrue reformed => exact reformed
  case isFalse unreformed =>
      subst h
      cases member

/-- No definition can be taken for an import. -/
theorem not_mem_imports_of_defined {baseline reform : List String} (hbaseline : plan.baseline = .ok baseline)
    (hreform : plan.reformDefinition = .ok reform) (member : line ∈ baseline ++ reform) :
    line ∉ plan.imports := by
  intro imported
  have begun : Begins "from " line := by simpa [importsShape, Shape.Fits] using imports_fit imported
  have avoid : baselineShape.Avoids "from " ∧ reformShape.Avoids "from " := by decide
  rcases List.mem_append.mp member with defined | defined
  · exact avoid.1.not_begins (baseline_fits hbaseline defined) begun
  · exact avoid.2.not_begins (reformDefinition_fits hreform defined) begun

/-! ## Simulations -/

/-- Entries that are indented by more than one space name nothing. -/
theorem not_constructs_of_indented {className : String} (begun : Begins "  " line) :
    ¬ Constructs className line := by
  obtain ⟨more, text⟩ := begun
  rw [Constructs, ← text]
  simp

theorem not_constructs_of_update {className start : String} (among : start ∈ updateStarts)
    (begun : Begins start line) : ¬ Constructs className line := by
  have indented : ∀ start ∈ updateStarts, Begins "  " start := by decide
  exact not_constructs_of_indented ((indented start among).trans begun)

theorem not_constructs_of_defined {baseline reform : List String}
    (hbaseline : plan.baseline = .ok baseline) (hreform : plan.reformDefinition = .ok reform)
    (scope : Scope) (member : line ∈ baseline ++ reform) :
    ¬ Constructs scope.simulationClass line := by
  have fixed : ∀ line ∈ baselineShape.fixed ++ reformShape.fixed,
      ¬ Constructs scope.simulationClass line := by
    cases scope <;> decide
  rcases List.mem_append.mp member with defined | defined
  · rcases baseline_fits hbaseline defined with always | ⟨start, among, begun⟩
    · exact fixed line (List.mem_append_left _ always)
    · exact not_constructs_of_update among begun
  · rcases reformDefinition_fits hreform defined with always | ⟨start, among, begun⟩
    · exact fixed line (List.mem_append_right _ always)
    · exact not_constructs_of_update among begun

theorem comparison_constructs (member : line ∈ plan.comparison) {scope : Scope}
    (constructs : Constructs scope.simulationClass line) : scope = plan.request.scope := by
  unfold comparison at member
  cases population : plan.request.scope with
  | household => simp [population] at member
  | policy =>
      cases scope with
      | policy => rfl
      | household =>
          simp only [population, personResult, List.mem_append, List.mem_cons, List.not_mem_nil,
            or_false] at member
          rcases member with (((rfl | rfl) | rfl | rfl) | rfl | rfl) | rfl <;>
            simp [Constructs, Scope.simulationClass] at constructs

theorem exists_members_of_situation {normaliser : Normaliser} {value : Json}
    (h : plan.situation normaliser = .ok value) : ∃ members, value = .obj members := by
  rw [situation_eq_groups] at h
  cases given : plan.request.household with
  | none => simp [given] at h
  | some household =>
      simp only [given] at h
      obtain ⟨groups, _, rfl⟩ := Fallible.map_eq_ok.mp h
      exact ⟨_, rfl⟩

/-- The literal of an object begins with its brace. -/
theorem literal_of_members (members : List (String × Json)) :
    ∃ more, (Literal.ofJson (.obj members)).toList = '{' :: more := by
  have brace : ∃ more, (Json.obj members).pretty 0 = '{' :: more := by
    cases members <;> exact ⟨_, rfl⟩
  obtain ⟨more, pretty⟩ := brace
  refine ⟨Literal.respell more, ?_⟩
  rw [Literal.ofJson, pretty, Literal.respell_mark_cons (by decide), String.toList_ofList]

theorem simulationLines_construct {members : List (String × Json)}
    (member : line ∈ plan.simulationLines (.obj members)) {scope : Scope}
    (constructs : Constructs scope.simulationClass line) : scope = .household := by
  cases scope with
  | household => rfl
  | policy =>
      obtain ⟨more, literal⟩ := literal_of_members members
      simp only [simulationLines, List.mem_append, List.mem_cons, List.not_mem_nil, or_false,
        List.mem_ite_nil_right] at member
      rcases member with ((rfl | rfl | rfl | rfl | rfl) | ⟨_, rfl⟩) | rfl | rfl | rfl | rfl | rfl <;>
        simp [Constructs, Scope.simulationClass, literal] at constructs

theorem householdSimulation_constructs {normaliser : Normaliser}
    (h : plan.householdSimulation normaliser = .ok lines) (member : line ∈ lines) {scope : Scope}
    (constructs : Constructs scope.simulationClass line) : scope = plan.request.scope := by
  rw [householdSimulation_eq_ok] at h
  split at h
  case h_1 population =>
      subst h
      cases member
  case h_2 single =>
      obtain ⟨situation, made, rfl⟩ := h
      obtain ⟨members, rfl⟩ := exists_members_of_situation made
      rw [single]
      exact simulationLines_construct member constructs

/-- A run of either scope makes a simulation. -/
theorem exists_constructs {normaliser : Normaliser} {simulation : List String}
    (h : plan.householdSimulation normaliser = .ok simulation) :
    ∃ entry ∈ simulation ++ plan.comparison,
      Constructs plan.request.scope.simulationClass entry := by
  rw [householdSimulation_eq_ok] at h
  cases scope : plan.request.scope with
  | household =>
      simp only [scope] at h
      obtain ⟨situation, _, rfl⟩ := h
      exact ⟨"simulation = Simulation(", by simp [simulationLines], by decide⟩
  | policy => exact ⟨reformedUse, by simp [reformedUse_mem_comparison, scope], by decide⟩

section WholeScript

variable {normaliser : Normaliser} {script : Script}

theorem reformImport_mem_script (h : plan.script normaliser = .ok script) :
    reformImport ∈ script.lines ↔ plan.hasReform := by
  obtain ⟨baseline, reform, simulation, hbaseline, hreform, hsimulation, rfl⟩ := script_eq_ok.mp h
  have imported : reformImport ∈ plan.imports ↔ plan.hasReform := mem_imports_iff (by simp)
  have never : ¬ comparisonShape.Fits reformImport ∧
      ∀ reformed, ¬ (simulationShape reformed).Fits reformImport := by decide
  have notCompared : reformImport ∉ plan.comparison := fun member => never.1 (comparison_fits member)
  have notSimulated : reformImport ∉ simulation := fun member =>
    never.2 _ (householdSimulation_fits hsimulation member)
  constructor
  · intro member
    rw [List.mem_append, or_iff_left notCompared, List.mem_append, or_iff_left notSimulated,
      List.append_assoc, List.mem_append] at member
    rcases member with among | defined
    · exact imported.mp among
    · rcases List.mem_append.mp defined with defined | defined
      · exact hasReform_of_mem_baseline hbaseline defined
      · exact hasReform_of_mem_reformDefinition hreform defined
  · intro reformed
    simp [imported, reformed]

theorem exists_reformClass_iff (h : plan.script normaliser = .ok script) :
    (∃ entry ∈ reformClasses, entry ∈ script.lines) ↔ plan.hasReform := by
  constructor
  · rintro ⟨entry, among, member⟩
    simp only [reformClasses, List.mem_cons, List.not_mem_nil, or_false] at among
    rcases among with rfl | rfl
    · exact (reformEntry_mem_script h).mp member
    · exact hasReform_of_updates ((baselineClass_mem_script h).mp member).2
  · intro reformed
    exact ⟨reformEntry, by simp [reformClasses], (reformEntry_mem_script h).mpr reformed⟩

/-- What stands behind the imports is preceded by them. -/
theorem precedes_of_imported {definition use : String} (h : plan.script normaliser = .ok script)
    (imported : definition ∈ plan.imports) (unused : use ∉ plan.imports) :
    Precedes definition use script.lines := by
  obtain ⟨baseline, reform, simulation, _, _, _, rfl⟩ := script_eq_ok.mp h
  simp only [List.append_assoc]
  exact precedes_append imported unused _

theorem reformImport_precedes (h : plan.script normaliser = .ok script) {entry : String}
    (among : entry ∈ reformClasses) : Precedes reformImport entry script.lines := by
  by_cases member : entry ∈ script.lines
  · have reformed := (exists_reformClass_iff h).mp ⟨entry, among, member⟩
    have never : ∀ entry ∈ reformClasses, ¬ importsShape.Fits entry := by decide
    refine precedes_of_imported h ((mem_imports_iff (by simp)).mpr reformed) ?_
    exact fun imported => never entry among (imports_fit imported)
  · exact precedes_of_not_mem member

theorem instantImport_precedes (h : plan.script normaliser = .ok script) {baseline reform : List String}
    (hbaseline : plan.baseline = .ok baseline) (hreform : plan.reformDefinition = .ok reform)
    (member : line ∈ baseline ++ reform) : Precedes instantImport line script.lines := by
  have reformed : plan.hasReform := (List.mem_append.mp member).elim
    (hasReform_of_mem_baseline hbaseline) (hasReform_of_mem_reformDefinition hreform)
  exact precedes_of_imported h ((mem_imports_iff (by simp)).mpr reformed)
    (not_mem_imports_of_defined hbaseline hreform member)

/-- Behind the first entry, the simulation class of a scope is used exactly by runs of the scope. -/
theorem constructs_iff (h : plan.script normaliser = .ok script) :
    ∃ rest, script.lines = classImport plan.request.info.package plan.request.scope :: rest ∧
      ∀ scope : Scope, (∃ entry ∈ rest, Constructs scope.simulationClass entry) ↔
        scope = plan.request.scope := by
  obtain ⟨baseline, reform, simulation, hbaseline, hreform, hsimulation, rfl⟩ := script_eq_ok.mp h
  refine ⟨(if plan.hasReform then [reformImport, instantImport] else []) ++ (baseline ++ reform) ++
    (simulation ++ plan.comparison), by simp [imports, classImport], fun scope => ?_⟩
  constructor
  · rintro ⟨entry, member, constructs⟩
    rw [List.mem_append, List.mem_append] at member
    rcases member with (imported | defined) | simulated
    · have never : ∀ entry ∈ [reformImport, instantImport],
          ¬ Constructs scope.simulationClass entry := by
        cases scope <;> decide
      exact absurd constructs (never entry (List.mem_ite_nil_right.mp imported).2)
    · exact absurd constructs (not_constructs_of_defined hbaseline hreform scope defined)
    · rcases List.mem_append.mp simulated with single | population
      · exact householdSimulation_constructs hsimulation single constructs
      · exact comparison_constructs population constructs
  · rintro rfl
    obtain ⟨entry, member, constructs⟩ := exists_constructs hsimulation
    exact ⟨entry, List.mem_append_right _ member, constructs⟩

end WholeScript

theorem imports_match_uses {normaliser : Normaliser} {config : Config} {request : Request}
    {script : Script} (generated : generate normaliser config request = .ok script) :
    ImportsWhatItUses ⟨request, config⟩ script where
  derived := (reformImport_mem_script generated).trans (exists_reformClass_iff generated).symm
  derivedLater _ := reformImport_precedes generated
  instants _ _ hbaseline hreform _ member _ := instantImport_precedes generated hbaseline hreform member
  simulations := constructs_iff generated

theorem updatedRun_imports_what_it_uses :
    ∃ script, generate .passthrough .standard updatedRun = .ok script ∧
      reformImport ∈ script.lines ∧ ImportsWhatItUses ⟨updatedRun, .standard⟩ script := by
  obtain ⟨script, generated⟩ : ∃ script, generate .passthrough .standard updatedRun = .ok script :=
    ⟨_, rfl⟩
  have imported : reformImport ∈ script.lines := (reformImport_mem_script generated).mpr (by decide)
  exact ⟨script, generated, imported, imports_match_uses generated⟩

end SimulationScript.Plan
