import SimulationScript.Proofs.Plan.Entries
import SimulationScript.Proofs.Policy.Key

/-! # The updates of a reform

A reform with parameters is a function with three entries for each update, and a class. The updates
stand in the order of the parameters and, for each of them, in the order of its intervals; where state
income tax is reported, the switch to it stands before them.
-/

namespace SimulationScript

/-! ## All updates of a reform -/

/-- The updates are those of each parameter in turn, one for each of its intervals. -/
structure Reform.Lists (reform : Reform) (updates : List Update) : Prop where
  length : updates.length = (reform.data.entries.flatMap fun entry => entry.2.entries).length
  /-- An update stands behind those of the parameters before its own and of the intervals before its
      own. -/
  place : ∀ before parameter schedule after earlier interval value later,
    reform.data.entries = before ++ (parameter, schedule) :: after →
    schedule.entries = earlier ++ (interval, value) :: later →
    updates[(before.flatMap fun entry => entry.2.entries).length + earlier.length]? =
      some ⟨parameter, interval, value⟩

theorem Reform.length_allUpdates (schedules : List (String × Schedule)) :
    (schedules.flatMap fun entry => scheduleUpdates entry.1 entry.2).length =
      (schedules.flatMap fun entry => entry.2.entries).length := by
  simp only [List.length_flatMap, scheduleUpdates, List.length_map]

theorem Reform.lists_updates (reform : Reform) : reform.Lists reform.updates where
  length := length_allUpdates _
  place before parameter schedule after earlier interval value later named timed := by
    have here : (scheduleUpdates parameter schedule)[earlier.length]? =
        some ⟨parameter, interval, value⟩ := by
      simp [scheduleUpdates, timed]
    have inside : earlier.length < (scheduleUpdates parameter schedule).length :=
      (List.getElem?_eq_some_iff.mp here).1
    rw [updates, named, List.flatMap_append, List.flatMap_cons, ← length_allUpdates before,
      List.getElem?_append_right (Nat.le_add_right _ _), Nat.add_sub_cancel_left,
      List.getElem?_append_left inside]
    exact here

namespace Plan

variable {plan : Plan} {lines : List String}

/-! ## The entries of one update -/

/-- The entries of an update: its parameter, the endpoints that its key is split into, and its value
    as it is displayed. -/
inductive SetsParameter (update : Update) : List String → Prop where
  | intro {start stop : String} : Interval.Splits update.interval start stop →
      SetsParameter update
        ["    parameters." ++ update.parameter ++ ".update(",
          "        start=instant(\"" ++ start ++ "\"), stop=instant(\"" ++ stop ++ "\"),",
          "        value=" ++ update.value.display ++ ")"]

theorem setsParameter_of_updateLines {update : Update} (h : updateLines update = .ok lines) :
    SetsParameter update lines := by
  obtain ⟨interval, split, written⟩ := Fallible.bind_eq_ok.mp h
  cases written
  exact .intro (Interval.splits_of_ofKey split)

theorem SetsParameter.length {update : Update} (sets : SetsParameter update lines) :
    lines.length = 3 := by
  cases sets
  rfl

/-! ## The entries of all updates -/

section Blocks

variable {updates : List Update} {blocks : List (List String)}

theorem exists_blocks (h : allUpdateLines updates = .ok lines) :
    ∃ blocks, lines = blocks.flatten ∧ List.Forall₂ SetsParameter updates blocks := by
  obtain ⟨blocks, read, written⟩ := Fallible.bind_eq_ok.mp h
  cases written
  exact ⟨blocks, rfl, (Fallible.mapM_eq_ok.mp read).imp fun _ _ => setsParameter_of_updateLines⟩

theorem length_blocks (sets : List.Forall₂ SetsParameter updates blocks) :
    blocks.flatten.length = 3 * updates.length := by
  induction sets with
  | nil => rfl
  | cons first _ ih =>
      rw [List.flatten_cons, List.length_append, first.length, ih, List.length_cons]
      omega

/-- The entries of each update stand together in the place of the update, whatever follows them all. -/
theorem group_of_blocks (sets : List.Forall₂ SetsParameter updates blocks) (rest : List String)
    (i : Nat) (inside : i < updates.length) :
    SetsParameter updates[i] (((blocks.flatten ++ rest).drop (3 * i)).take 3) := by
  induction sets generalizing i with
  | nil => exact absurd inside (Nat.not_lt_zero i)
  | @cons update block updates blocks first others ih =>
      have three : block.length = 3 := first.length
      rw [List.flatten_cons, List.append_assoc]
      cases i with
      | zero => rwa [Nat.mul_zero, List.drop_zero, List.take_left' three]
      | succ i =>
          have onward : 3 * (i + 1) = block.length + 3 * i := by omega
          rw [onward, List.drop_length_add_append]
          exact ih i (Nat.lt_of_succ_lt_succ inside)

end Blocks

/-! ## The whole reform -/

/-- What stands before the updates of a reform: the switch to reported state income tax over the span of
    the reform, in runs of the population of a US region whose reform has updates. -/
inductive InjectedTax (plan : Plan) : List String → Prop where
  | reported {span : Span} : plan.request.scope = .policy → plan.isUsRegion →
      plan.request.policy.span = .ok (some span) →
      InjectedTax plan
        ["    parameters.simulation.reported_state_income_tax.update(",
          "        start=instant(\"" ++ span.earliestStart ++ "\"), stop=instant(\"" ++ span.latestEnd ++
            "\"),",
          "        value=True)"]
  | silent : (plan.request.scope = .policy → plan.isUsRegion → plan.reform.updates = []) →
      InjectedTax plan []

/-- The entries of a reform, one after the other. -/
structure ReformEntries (updates : List Update) (tax lines : List String) : Prop where
  length : lines.length = 9 + 3 * updates.length + tax.length
  opening : lines.take 3 = ["", "", "def modify_parameters(parameters):"]
  injected : (lines.drop 3).take tax.length = tax
  group : ∀ i (inside : i < updates.length),
    SetsParameter updates[i] ((lines.drop (3 + tax.length + 3 * i)).take 3)
  closing : lines.drop (3 + tax.length + 3 * updates.length) =
    ["    return parameters", "", "", "class reform(Reform):", "    def apply(self):",
      "        self.modify_parameters(modify_parameters)"]

theorem injectedTax_of_overSpan (h : plan.overSpan taxBlock = .ok lines) : plan.InjectedTax lines := by
  obtain ⟨span, resolved, rfl⟩ := overSpan_eq_ok.mp h
  have updated := isSome_taxSpan resolved
  rw [reportsStateTax_iff] at updated
  cases span with
  | none =>
      refine .silent fun population us => ?_
      by_contra someThere
      exact absurd (updated.mpr ⟨⟨population, us⟩, someThere⟩) (by simp)
  | some span =>
      obtain ⟨⟨population, us⟩, _⟩ := updated.mp rfl
      have reports := reportsStateTax_iff.mpr ⟨population, us⟩
      rw [taxSpan, if_pos reports] at resolved
      exact .reported population us resolved

/-- The reform of a request has three entries for each of its updates, in their order, behind the switch
    to reported state income tax if there is one. -/
theorem reform_gives_every_update (reformed : plan.hasReform)
    (defined : plan.reformDefinition = .ok lines) :
    plan.reform.Lists plan.reform.updates ∧
      ∃ tax, plan.InjectedTax tax ∧ ReformEntries plan.reform.updates tax lines := by
  rw [reformDefinition_eq_ok, if_pos reformed] at defined
  obtain ⟨tax, updates, injected, given, rfl⟩ := defined
  obtain ⟨blocks, rfl, sets⟩ := exists_blocks given
  refine ⟨plan.reform.lists_updates, tax, injectedTax_of_overSpan injected, ?_⟩
  have counted := length_blocks sets
  have behind (n : Nat) (more : List String) :
      (["", "", "def modify_parameters(parameters):"] ++ tax ++ blocks.flatten ++ more).drop
        (3 + tax.length + n) = (blocks.flatten ++ more).drop n := by
    have head : 3 + tax.length = (["", "", "def modify_parameters(parameters):"] ++ tax).length := by
      rw [List.length_append]
      rfl
    rw [head, List.append_assoc, List.drop_length_add_append]
  constructor
  case length =>
    simp only [List.length_append, counted, reformClass, List.length_cons, List.length_nil]
    omega
  case opening => rfl
  case injected => simp
  case group =>
    intro i inside
    rw [behind]
    exact group_of_blocks sets _ i inside
  case closing =>
    rw [behind, List.drop_left' counted]
    rfl

/-- A run with updates of two parameters and between them a parameter without any. -/
def nestedRun : Plan where
  request := (Request.ofRegion (.ofPackage "policyengine_us") "us").withReform ⟨.ofList [
    ("gov.z", .ofList [("2026-01-01.2026-12-31", .flag true), ("2024.2025-12-31", .text "0.5")]),
    ("gov.idle", .empty),
    ("gov.a", .ofList [("2025-01-01.2025-12-31", .flag false)])]⟩
  config := .standard

theorem nestedRun_gives_every_update :
    nestedRun.hasReform ∧ ∃ lines, nestedRun.reformDefinition = .ok lines ∧ lines.length = 21 ∧
      nestedRun.reform.Lists nestedRun.reform.updates ∧
      ∃ tax, nestedRun.InjectedTax tax ∧ ReformEntries nestedRun.reform.updates tax lines := by
  have reformed : nestedRun.hasReform := by decide
  exact ⟨reformed, _, rfl, rfl, reform_gives_every_update reformed rfl⟩

end Plan

end SimulationScript
