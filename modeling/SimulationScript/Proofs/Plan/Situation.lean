import SimulationScript.Proofs.Household.Retention
import SimulationScript.Proofs.Household.Selection
import SimulationScript.Proofs.OrderedMap
import SimulationScript.Proofs.Plan.Entries

/-! # The household in a script

What a script shows of the household of its request, said entry by entry, instance by instance and
variable by variable, and that exactly this is written behind `situation =`.
-/

namespace SimulationScript.Plan

open Household Json

variable {plan : Plan}

/-! ## What stays of a household -/

/-- The package is known to compute the variable. -/
def DeclaredComputed (info : Metadata) (name : String) : Prop :=
  ∃ known, info.knownVariables.get? name = some known ∧ known.isInput = false

/-- The value is an object with null for the year. -/
def NullInYear (year : Year) (value : Json) : Prop :=
  ∃ years, value = .obj years ∧ years.lookup year.text = some .null

/-- The variable is swept in place of its value. -/
def Swept (plan : Plan) (name : String) : Prop :=
  plan.request.earningVariation ∧ name = plan.config.earningAxis.variableName

def VariableStays (plan : Plan) (name : String) (value : Json) : Prop :=
  name = "members" ∨
    ¬ DeclaredComputed plan.request.info name ∧ ¬ NullInYear plan.year value ∧ ¬ plan.Swept name

/-- A group stays if it has instances and, where the package names any entities, is the plural of
    one. What is no group stays. -/
def GroupStays (info : Metadata) (name : String) (group : Json) : Prop :=
  ∀ instances, group = .obj instances → instances ≠ [] ∧
    (info.entities.entries ≠ [] → ∃ entity ∈ info.entities.values, entity.plural = name)

/-- The variables of an instance that stay, with their values untouched. -/
def InstanceBecomes (plan : Plan) : Json → Json → Prop :=
  Within (Selected plan.VariableStays fun value new => new = value)

/-- All instances of a group, each with what becomes of it. -/
def GroupBecomes (plan : Plan) : Json → Json → Prop :=
  Within (Selected (fun _ _ => True) plan.InstanceBecomes)

def HouseholdBecomes (plan : Plan) : List (String × Json) → List (String × Json) → Prop :=
  Selected (GroupStays plan.request.info) plan.GroupBecomes

/-- The axes of a household whose earnings vary. -/
def singleAxis (axis : EarningAxis) : Json :=
  .arr [.arr [.obj [("name", .str axis.variableName), ("count", .num (.ofUInt32 axis.count)),
    ("min", .num (.ofInt64 axis.min)), ("max", .num (.ofInt64 axis.max))]]]

/-- The axes stand in the place of an entry of that name, or at the end if there is none. -/
inductive AxesPlaced (axes : Json) : List (String × Json) → List (String × Json) → Prop where
  | replaced {front back : List (String × Json)} {old : Json} : "axes" ∉ Entries.keys front →
      AxesPlaced axes (front ++ ("axes", old) :: back) (front ++ ("axes", axes) :: back)
  | appended {groups : List (String × Json)} : "axes" ∉ Entries.keys groups →
      AxesPlaced axes groups (groups ++ [("axes", axes)])

/-- The household that a script shows for the given one. -/
def IsSituation (plan : Plan) (groups situation : List (String × Json)) : Prop :=
  ∃ reduced, plan.HouseholdBecomes groups reduced ∧
    if plan.request.earningVariation then
      AxesPlaced (singleAxis plan.config.earningAxis) reduced situation
    else situation = reduced

/-! ## The tests of the two steps -/

theorem isComputed_iff {info : Metadata} {name : String} :
    info.isComputed name ↔ DeclaredComputed info name := by
  unfold Metadata.isComputed DeclaredComputed
  cases info.knownVariables.get? name <;> simp

theorem isUnset_iff {year : Year} {value : Json} : isUnset year value ↔ NullInYear year value := by
  have isNullIff (entry : Json) : entry.isNull ↔ entry = .null := by
    cases entry <;> simp [isNull]
  unfold isUnset NullInYear
  cases value with
  | obj years =>
      cases found : years.lookup year.text <;> simp [get?, found, isNullIff]
  | _ => simp [get?]

theorem sweptVariable_eq_some {name : String} : plan.sweptVariable = some name ↔ plan.Swept name := by
  unfold sweptVariable Swept
  cases plan.request.earningVariation <;> simp [@eq_comm _ name]

/-- The test of a variable in both steps that the household goes through. -/
def keeps (plan : Plan) : String → Json → Bool :=
  isKept plan.request.info plan.year plan.sweptVariable

theorem variableStays_iff {name : String} {value : Json} :
    plan.VariableStays name value ↔ name == membersName || plan.keeps name value := by
  simp [VariableStays, keeps, isKept, both, membersName, ← isComputed_iff, ← isUnset_iff,
    ← sweptVariable_eq_some]

theorem isEntityGroup_iff {info : Metadata} {name : String} :
    info.isEntityGroup name ↔
      (info.entities.entries ≠ [] → ∃ entity ∈ info.entities.values, entity.plural = name) := by
  simp [Metadata.isEntityGroup, OrderedMap.isEmpty, Decidable.imp_iff_not_or]

theorem groupStays_iff {info : Metadata} {name : String} {group : Json} :
    GroupStays info name group ↔ isKnownGroup info name group := by
  unfold GroupStays
  cases group with
  | obj instances =>
      simp only [isKnownGroup, obj.injEq, forall_eq', ← isEntityGroup_iff, Bool.and_eq_true,
        Bool.not_eq_true', List.isEmpty_eq_false_iff]
  | _ => simp [isKnownGroup]

/-! ## The two steps together -/

theorem instanceBecomes_iff {value new : Json} :
    plan.InstanceBecomes value new ↔ new = retainVariables plan.keeps value := by
  have stays (name : String) (value : Json) : plan.VariableStays name value ↔
      (name == membersName || plan.keeps name value) = true := variableStays_iff
  have selected (values kept : List (String × Json)) :
      Selected plan.VariableStays (fun value new => new = value) values kept ↔
        kept = values.filter fun entry => entry.1 == membersName || plan.keeps entry.1 entry.2 := by
    refine Iff.trans (selected_iff (f := id) stays fun _ _ => Iff.rfl) ?_
    simp
  refine Iff.trans (within_iff selected) ?_
  cases value <;> rfl

theorem groupBecomes_iff {group new : Json} :
    plan.GroupBecomes group new ↔ new = retainInGroup plan.keeps group := by
  have stays (name : String) (value : Json) : True ↔ true = true := by simp
  have becomes (value new : Json) : plan.InstanceBecomes value new ↔
      new = retainVariables plan.keeps value := instanceBecomes_iff
  have selected (instances kept : List (String × Json)) :
      Selected (fun _ _ => True) plan.InstanceBecomes instances kept ↔
        kept = instances.map fun entry => (entry.1, retainVariables plan.keeps entry.2) := by
    rw [selected_iff stays becomes, List.filter_true]
  refine Iff.trans (within_iff selected) ?_
  cases group <;> rfl

theorem householdBecomes_iff {groups reduced : List (String × Json)} :
    plan.HouseholdBecomes groups reduced ↔
      reduced = prune plan.year plan.sweptVariable (removeComputed plan.request.info groups) := by
  have stays (name : String) (group : Json) : GroupStays plan.request.info name group ↔
      isKnownGroup plan.request.info name group := groupStays_iff
  have becomes (group new : Json) : plan.GroupBecomes group new ↔
      new = retainInGroup plan.keeps group := groupBecomes_iff
  rw [prune_removeComputed]
  exact selected_iff stays becomes

theorem axesPlaced_iff {value : Json} {groups situation : List (String × Json)} :
    AxesPlaced value groups situation ↔ situation = Entries.set axesName value groups := by
  constructor
  · intro placed
    cases placed with
    | replaced absent => rw [axesName, Entries.set_append absent]
    | appended absent => rw [axesName, Entries.set_of_not_mem absent]
  · intro same
    subst same
    by_cases present : axesName ∈ Entries.keys groups
    · obtain ⟨front, old, back, rfl, absent⟩ := Entries.exists_first present
      rw [Entries.set_append absent]
      exact .replaced absent
    · rw [Entries.set_of_not_mem present]
      exact .appended present

theorem isSituation_iff {groups situation : List (String × Json)} :
    plan.IsSituation groups situation ↔
      Json.obj situation = plan.situationOf (removeComputed plan.request.info groups) := by
  simp only [IsSituation, householdBecomes_iff, exists_eq_left, situationOf, obj.injEq]
  split
  · exact axesPlaced_iff
  · rfl

/-! ## The entry of the household -/

theorem situation_schema {groups : List (String × Json)}
    (given : plan.request.household = some (.obj groups)) :
    plan.situation .schema = .ok (plan.situationOf (removeComputed plan.request.info groups)) := by
  unfold situation
  rw [given]
  rfl

theorem not_begins_situation_of_head {lines : List String} {line : String}
    (h : plan.reformDefinition = .ok lines) (member : line ∈ plan.imports ++ lines ++ ["", ""]) :
    ¬ Begins "situation = " line := by
  rcases List.mem_append.mp member with member | blank
  · rcases List.mem_append.mp member with imported | defined
    · exact Shape.Avoids.not_begins (by decide) (imports_fit imported)
    · exact Shape.Avoids.not_begins (by decide) (reformDefinition_fits h defined)
  · have never : ∀ line ∈ ["", ""], ¬ Begins "situation = " line := by decide
    exact never line blank

theorem not_begins_situation_of_tail {line : String} (member : line ∈ plan.simulationTail) :
    ¬ Begins "situation = " line := by
  have avoids : ∀ reformed, (simulationTailShape reformed).Avoids "situation = " := by decide
  exact (avoids _).not_begins (simulationTail_fits member)

/-- The script of a household simulation around the entry of the household. -/
theorem script_lines_of_household {normaliser : Normaliser} {script : Script} {situation : Json}
    (single : plan.request.scope = .household) (h : plan.script normaliser = .ok script)
    (embedded : plan.situation normaliser = .ok situation) :
    ∃ reform, plan.reformDefinition = .ok reform ∧
      script.lines = (plan.imports ++ reform ++ ["", ""]) ++
        ("situation = " ++ Literal.ofJson situation) :: plan.simulationTail := by
  obtain ⟨baseline, reform, simulation, hbaseline, hreform, hsimulation, rfl⟩ := script_eq_ok.mp h
  have noTax : ¬ plan.reportsStateTax := by simp [reportsStateTax, single]
  rw [baseline_eq_overSpan, overSpan, if_neg noTax] at hbaseline
  cases hbaseline
  rw [householdSimulation_eq_ok, single] at hsimulation
  obtain ⟨shown, hshown, rfl⟩ := hsimulation
  obtain rfl := Except.ok.inj (embedded.symm.trans hshown)
  refine ⟨reform, hreform, ?_⟩
  have noComparison : plan.comparison = [] := by simp [comparison, single]
  simp [noComparison, simulationLines_eq]

/-- A household simulation shows, in its one entry that begins with `situation =`, the household of
    the request with exactly the groups, instances and variables that stay, in their order and
    otherwise untouched, and with the configured axis when earnings vary. -/
theorem script_shows_household {config : Config} {request : Request} {script : Script}
    {groups : List (String × Json)} (single : request.scope = .household)
    (given : request.household = some (.obj groups))
    (generated : generate .schema config request = .ok script) :
    ∃ situation, (∀ other, IsSituation ⟨request, config⟩ groups other ↔ other = situation) ∧
      ∃ front back, script.lines =
          front ++ ("situation = " ++ Literal.ofJson (.obj situation)) :: back ∧
        ∀ line ∈ front ++ back, ¬ Begins "situation = " line := by
  let plan : Plan := ⟨request, config⟩
  obtain ⟨situation, shown⟩ :
      ∃ situation, plan.situationOf (removeComputed request.info groups) = .obj situation :=
    ⟨_, rfl⟩
  refine ⟨situation, fun other => ?_, ?_⟩
  · rw [isSituation_iff]
    change Json.obj other = plan.situationOf (removeComputed request.info groups) ↔ _
    rw [shown, obj.injEq]
  · have embedded : plan.situation .schema = .ok (.obj situation) := by
      rw [situation_schema given, ← shown]
    obtain ⟨reform, hreform, lines⟩ := script_lines_of_household single generated embedded
    refine ⟨_, _, lines, fun line member => ?_⟩
    rcases List.mem_append.mp member with head | tail
    · exact not_begins_situation_of_head hreform head
    · exact not_begins_situation_of_tail tail

/-- A package with two kinds of entities that computes one variable. -/
def smallPackage : Metadata where
  package := "policyengine_us"
  entities := .ofList [("person", ⟨"people"⟩), ("household", ⟨"households"⟩)]
  knownVariables := .ofList [("age", ⟨true⟩), ("net_income", ⟨false⟩)]

/-- Groups with everything that is dropped, and with parts of the wrong shape. -/
def mixedGroups : List (String × Json) :=
  [("people", .obj [
      ("you", .obj [("age", .obj [("2024", .str "40")]), ("net_income", .str "1"),
        ("is_blind", .obj [("2024", .null)]), ("is_deaf", .obj [("2025", .null)]),
        ("employment_income", .obj [("2024", .str "2")]), ("members", .obj [("2024", .null)])]),
      ("none", .null)]),
    ("axes", .str "old"), ("benunits", .obj [("yours", .obj [])]), ("households", .obj [])]

def sweptHousehold : Request :=
  { Request.ofHousehold smallPackage (.obj mixedGroups) with earningVariation := true }

/-- What is left of the groups, with the axis in place of the old entry. -/
def shownGroups : List (String × Json) :=
  [("people", .obj [
      ("you", .obj [("age", .obj [("2024", .str "40")]), ("is_deaf", .obj [("2025", .null)]),
        ("members", .obj [("2024", .null)])]),
      ("none", .null)]),
    ("axes", singleAxis .standard)]

theorem sweptHousehold_is_shown :
    sweptHousehold.scope = .household ∧ sweptHousehold.household = some (.obj mixedGroups) ∧
      ∃ script, generate .schema .standard sweptHousehold = .ok script ∧
        "situation = " ++ Literal.ofJson (.obj shownGroups) ∈ script.lines := by
  obtain ⟨script, generated⟩ : ∃ script, generate .schema .standard sweptHousehold = .ok script :=
    ⟨_, rfl⟩
  obtain ⟨situation, exactly, front, back, lines, _⟩ := script_shows_household rfl rfl generated
  obtain rfl : shownGroups = situation := (exactly _).mp (isSituation_iff.mpr rfl)
  refine ⟨rfl, rfl, script, generated, ?_⟩
  simp [lines]

end SimulationScript.Plan
