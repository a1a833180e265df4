import SimulationScript.Proofs.Plan.Dependence

/-! # The year of a script

A run has one year, the one that is asked for or else the default. Nothing but that year is read of the
two: it prunes the household and is written wherever a script names a year.
-/

namespace SimulationScript

/-- The year of a run: the one that is asked for, unless none or year zero is. -/
inductive Year.Resolves (default : Year) : Option Year → Year → Prop where
  | requested {year : Year} : year.value ≠ 0 → Resolves default (some year) year
  | none : Resolves default none default
  | zero : Resolves default (some ⟨0⟩) default

theorem Year.resolve_eq_iff {requested : Option Year} {default year : Year} :
    resolve requested default = year ↔ Resolves default requested year := by
  constructor
  · rintro rfl
    cases requested with
    | none => exact .none
    | some year =>
        obtain ⟨value⟩ := year
        by_cases zero : value = 0
        · subst zero
          exact .zero
        · simp only [resolve, if_neg zero]
          exact .requested zero
  · intro resolves
    cases resolves with
    | requested named => simp only [resolve, if_neg named]
    | none => rfl
    | zero => rfl

namespace Plan

variable {plan : Plan} {normaliser : Normaliser} {year : Year} {lines : List String} {line : String}

/-! ## Runs in the same year -/

/-- The same run with another year asked for and another default. -/
def dated (plan : Plan) (requested : Option Year) (default : Year) : Plan :=
  ⟨{ plan.request with year := requested }, { plan.config with defaultYear := default }⟩

theorem script_dated (plan : Plan) {requested : Option Year} {default : Year}
    (same : Year.resolve requested default = plan.year) :
    (plan.dated requested default).script normaliser = plan.script normaliser := by
  have sameYear : (plan.dated requested default).year = plan.year := same
  have head : SameHead (plan.dated requested default) plan := ⟨rfl, rfl, rfl, rfl⟩
  have sameSituationOf : (plan.dated requested default).situationOf = plan.situationOf := by
    funext groups
    rw [situationOf, situationOf, sameYear]
    rfl
  have sameSituation :
      (plan.dated requested default).situation normaliser = plan.situation normaliser := by
    rw [situation_eq_groups, situation_eq_groups, sameSituationOf]
    rfl
  have sameLines :
      (plan.dated requested default).simulationLines = plan.simulationLines := by
    funext value
    rw [simulationLines, simulationLines, sameYear]
    rfl
  apply head.script_eq
  · rw [householdSimulation, householdSimulation, sameSituation, sameLines]
    rfl
  · have samePersonResult : (plan.dated requested default).personResult = plan.personResult := by
      funext simulation
      rw [personResult, personResult, sameYear]
      rfl
    rw [comparison, comparison, samePersonResult]
    rfl

/-! ## Where a script names its year -/

/-- The household of a script with the variables pruned that are unset in the given year. -/
def situationIn (plan : Plan) (year : Year) (groups : List (String × Json)) : Json :=
  let pruned := Household.prune year plan.sweptVariable groups
  .obj (if plan.request.earningVariation then
    Household.withAxis plan.config.earningAxis pruned else pruned)

def situationEntry (situation : Json) : String :=
  "situation = " ++ Literal.ofJson situation

def calculation (plan : Plan) (year : Year) : String :=
  "output = simulation.calculate(\"" ++ plan.config.outputVariable ++ "\", " ++ year.text ++ ")"

def periodEntry (year : Year) : String :=
  "    period=" ++ year.text ++ ", map_to=\"person\")"

/-- The entries of a script that begin with a text. -/
def beginning (start : String) (lines : List String) : List String :=
  lines.filter fun line => Begins start line

/-- A script uses the year for everything that goes by a year: a household run prunes the normalised
    household in it and calculates its result for it, a population run gives it as the period of both
    results. -/
inductive UsesYear (plan : Plan) (normaliser : Normaliser) (year : Year) (lines : List String) :
    Prop where
  | household {given : Json} {groups : List (String × Json)} :
      plan.request.scope = .household → plan.request.household = some given →
      normaliser.groups given plan.request.info = .ok groups →
      beginning "situation = " lines = [situationEntry (plan.situationIn year groups)] →
      beginning "output = " lines = [plan.calculation year] → UsesYear plan normaliser year lines
  | population : plan.request.scope = .policy →
      beginning "    period=" lines = [periodEntry year, periodEntry year] →
      UsesYear plan normaliser year lines

theorem beginning_append (start : String) (front back : List String) :
    beginning start (front ++ back) = beginning start front ++ beginning start back :=
  List.filter_append ..

theorem beginning_eq_nil {start : String} (absent : ∀ line ∈ lines, ¬ Begins start line) :
    beginning start lines = [] := by
  rw [beginning, List.filter_eq_nil_iff]
  simpa using absent

theorem beginning_of_fits {shape : Shape} {start : String} (fits : ∀ line ∈ lines, shape.Fits line)
    (avoids : shape.Avoids start) : beginning start lines = [] :=
  beginning_eq_nil fun line member => avoids.not_begins (fits line member)

/-- A text that no import and no definition begins with. -/
def InNoDefinition (start : String) : Prop :=
  importsShape.Avoids start ∧ baselineShape.Avoids start ∧ reformShape.Avoids start

instance (start : String) : Decidable (InNoDefinition start) :=
  inferInstanceAs (Decidable (_ ∧ _))

theorem InNoDefinition.beginning_eq_nil {start : String} (elsewhere : InNoDefinition start)
    {baseline reform : List String} (hbaseline : plan.baseline = .ok baseline)
    (hreform : plan.reformDefinition = .ok reform) :
    beginning start (plan.imports ++ baseline ++ reform) = [] := by
  obtain ⟨imports, baselines, reforms⟩ := elsewhere
  rw [beginning_append, beginning_append, beginning_of_fits (fun _ => imports_fit) imports,
    beginning_of_fits (fun _ => baseline_fits hbaseline) baselines,
    beginning_of_fits (fun _ => reformDefinition_fits hreform) reforms]
  rfl

theorem beginning_script {start : String} (elsewhere : InNoDefinition start) {script : Script}
    (h : plan.script normaliser = .ok script) :
    ∃ simulation, plan.householdSimulation normaliser = .ok simulation ∧
      beginning start script.lines = beginning start (simulation ++ plan.comparison) := by
  obtain ⟨baseline, reform, simulation, hbaseline, hreform, hsimulation, rfl⟩ := script_eq_ok.mp h
  refine ⟨simulation, hsimulation, ?_⟩
  dsimp only
  rw [List.append_assoc, beginning_append, elsewhere.beginning_eq_nil hbaseline hreform]
  rfl

theorem beginning_cons {start : String} (begun : Begins start line) (lines : List String) :
    beginning start (line :: lines) = line :: beginning start lines :=
  List.filter_cons_of_pos (by simpa using begun)

theorem beginning_cons_of_not {start : String} (other : ¬ Begins start line) (lines : List String) :
    beginning start (line :: lines) = beginning start lines :=
  List.filter_cons_of_neg (by simpa using other)

theorem beginning_situation (situation : Json) :
    beginning "situation = " (plan.simulationLines situation) = [situationEntry situation] := by
  have blank : beginning "situation = " ["", ""] = [] := rfl
  have tail : beginning "situation = " plan.simulationTail = [] :=
    beginning_eq_nil fun _ => not_begins_situation_of_tail
  rw [simulationLines_eq, beginning_append, blank, beginning_cons (begins_append _ _), tail]
  rfl

theorem beginning_output (situation : Json) :
    beginning "output = " (plan.simulationLines situation) = [plan.calculation plan.year] := by
  have shown : ¬ Begins "output = " (situationEntry situation) := fun begun =>
    absurd (begun.comparable (begins_append _ _)) (by decide)
  have argument : beginning "output = " (reformArgument plan.hasReform) = [] := by
    cases plan.hasReform <;> rfl
  have calculated : Begins "output = " (plan.calculation plan.year) := by
    unfold calculation
    simp [Begins]
  have fixed : ∀ lines ∈ [["", ""], ["", "simulation = Simulation("],
      ["    situation=situation,", ")", ""], ["print(output)"]], beginning "output = " lines = [] := by
    decide
  simp only [List.forall_mem_cons] at fixed
  obtain ⟨blank, opened, closed, printed, _⟩ := fixed
  have tail : plan.simulationTail = ["", "simulation = Simulation("] ++ reformArgument plan.hasReform ++
      (["    situation=situation,", ")", ""] ++ plan.calculation plan.year :: ["print(output)"]) := rfl
  rw [simulationLines_eq, ← situationEntry, beginning_append, blank, beginning_cons_of_not shown, tail,
    beginning_append, beginning_append, opened, argument, beginning_append, closed,
    beginning_cons calculated, printed]
  rfl

theorem beginning_comparison (population : plan.request.scope = .policy) :
    beginning "    period=" plan.comparison = [periodEntry plan.year, periodEntry plan.year] := by
  simp [comparison, population, personResult, beginning, Begins, periodEntry]

theorem usesYear_of_script {script : Script} (h : plan.script normaliser = .ok script) :
    UsesYear plan normaliser plan.year script.lines := by
  have elsewhere : ∀ start ∈ ["situation = ", "output = ", "    period="], InNoDefinition start := by
    decide
  simp only [List.forall_mem_cons] at elsewhere
  obtain ⟨situations, outputs, periods, _⟩ := elsewhere
  obtain ⟨simulation, made, situationLines⟩ := beginning_script situations h
  obtain ⟨_, made', outputLines⟩ := beginning_script outputs h
  obtain ⟨_, made'', periodLines⟩ := beginning_script periods h
  obtain rfl := Except.ok.inj (made.symm.trans made')
  obtain rfl := Except.ok.inj (made.symm.trans made'')
  rw [householdSimulation_eq_ok] at made
  cases scope : plan.request.scope with
  | policy =>
      simp only [scope] at made
      subst made
      exact .population scope (periodLines.trans (beginning_comparison scope))
  | household =>
      simp only [scope] at made
      obtain ⟨value, embedded, rfl⟩ := made
      have noComparison : plan.comparison = [] := by simp [comparison, scope]
      rw [noComparison, List.append_nil] at situationLines outputLines
      rw [situation_eq_groups] at embedded
      cases given : plan.request.household with
      | none => simp [given] at embedded
      | some household =>
          simp only [given] at embedded
          obtain ⟨groups, normalised, rfl⟩ := Fallible.map_eq_ok.mp embedded
          exact .household scope given normalised (situationLines.trans (beginning_situation _))
            (outputLines.trans (beginning_output _))

end Plan

open Plan

/-- Of the year of a request and the default year, generation goes by the one that they resolve to. -/
structure ResolvesYear (normaliser : Normaliser) (config : Config) (request : Request) : Prop where
  unnamed : ∀ requested ∈ [none, some ⟨0⟩, some config.defaultYear],
    generate normaliser config { request with year := requested } =
      generate normaliser config { request with year := none }
  named : ∀ year, request.year = some year → year.value ≠ 0 → ∀ defaultYear,
    generate normaliser { config with defaultYear } request = generate normaliser config request
  used : ∃ year, Year.Resolves config.defaultYear request.year year ∧
    ∀ script, generate normaliser config request = .ok script →
      UsesYear ⟨request, config⟩ normaliser year script.lines

theorem generate_resolves_year (normaliser : Normaliser) (config : Config) (request : Request) :
    ResolvesYear normaliser config request where
  unnamed requested among := by
    let undated : Plan := ⟨{ request with year := none }, config⟩
    have same : Year.resolve requested config.defaultYear = config.defaultYear := by
      simp only [List.mem_cons, List.not_mem_nil, or_false] at among
      rcases among with rfl | rfl | rfl
      · rfl
      · rfl
      · simp [Year.resolve]
    exact undated.script_dated same
  named year named nonzero defaultYear := by
    let plan : Plan := ⟨request, config⟩
    have same (default : Year) : Year.resolve request.year default = year := by
      rw [named]
      exact Year.resolve_eq_iff.mpr (.requested nonzero)
    exact plan.script_dated ((same defaultYear).trans (same config.defaultYear).symm)
  used := ⟨_, Year.resolve_eq_iff.mp rfl, fun _ generated => usesYear_of_script generated⟩

/-- A household run that asks for year zero. -/
def unnamedYearRun : Request :=
  { sweptHousehold with year := some ⟨0⟩ }

/-- The same run in a year in which another of its variables is unset. -/
def laterRun : Request :=
  { sweptHousehold with year := some ⟨2025⟩ }

theorem unnamed_and_named_years_resolve :
    generate .schema .standard unnamedYearRun =
        generate .schema .standard { sweptHousehold with year := none } ∧
      generate .schema { Config.standard with defaultYear := ⟨2030⟩ } laterRun =
        generate .schema .standard laterRun ∧
      ∃ script, generate .schema .standard laterRun = .ok script ∧
        beginning "output = " script.lines =
          ["output = simulation.calculate(\"household_net_income\", 2025)"] := by
  have resolved := generate_resolves_year .schema .standard
  obtain ⟨script, generated⟩ : ∃ script, generate .schema .standard laterRun = .ok script := ⟨_, rfl⟩
  refine ⟨(resolved sweptHousehold).unnamed (some ⟨0⟩) (by simp), ?_, script, generated, ?_⟩
  · exact (resolved laterRun).named ⟨2025⟩ rfl (by decide) ⟨2030⟩
  · obtain ⟨year, resolves, uses⟩ := (resolved laterRun).used
    obtain rfl : Plan.year ⟨laterRun, .standard⟩ = year := Year.resolve_eq_iff.mpr resolves
    cases uses script generated with
    | household _ _ _ _ output => exact output.trans (by decide)
    | population population => exact absurd population (by decide)

end SimulationScript
