import SimulationScript.Plan.Script
import SimulationScript.Proofs.Fallible
import SimulationScript.Proofs.Policy.Span

/-! # When the parts of a script can be made

Each part of a plan succeeds under a condition on the request alone. The interval keys have to split
wherever there is a reform, and their endpoints have to be dates only where reported state income
tax needs a span.
-/

namespace SimulationScript

theorem Policy.isOk_span {policy : Policy} :
    policy.span.isOk ↔
      ∀ update ∈ policy.reform.updates, ∃ start stop, Span.Reads update.interval start stop := by
  have same : policy.span.isOk =
      (policy.reform.updates.mapM fun update => Span.endpoints update.interval).isOk := by
    rw [Policy.span, Span.ofKeys_updates]
    cases policy.reform.updates.mapM fun update => Span.endpoints update.interval <;> rfl
  simp only [same, Fallible.isOk_mapM, Span.isOk_endpoints]

/-- Every endpoint of an interval key that splits is a date. -/
def Policy.EndpointsAreDates (policy : Policy) : Prop :=
  ∀ update ∈ policy.reform.updates, ∀ interval, Interval.ofKey update.interval = .ok interval →
    (Date.parse? interval.start).isSome ∧ (Date.parse? interval.stop).isSome

/-- A policy has a span when all its interval keys split and the endpoints are dates. -/
theorem Policy.isOk_span_iff {policy : Policy} :
    policy.span.isOk ↔
      (∀ update ∈ policy.reform.updates, (Interval.ofKey update.interval).isOk) ∧
        policy.EndpointsAreDates := by
  rw [Policy.isOk_span]
  constructor
  · intro readable
    refine ⟨fun update member => ?_, fun update member interval split => ?_⟩
    · obtain ⟨start, stop, read⟩ := readable update member
      exact Fallible.isOk_iff.mpr ⟨_, read.interval⟩
    · obtain ⟨start, stop, read⟩ := readable update member
      obtain rfl := Except.ok.inj (read.interval.symm.trans split)
      exact ⟨by simp [read.startDay], by simp [read.stopDay]⟩
  · intro accepted update member
    obtain ⟨split, dated⟩ := accepted
    obtain ⟨interval, whole⟩ := Fallible.isOk_iff.mp (split update member)
    obtain ⟨someStart, someStop⟩ := dated update member interval whole
    obtain ⟨start, hstart⟩ := Option.isSome_iff_exists.mp someStart
    obtain ⟨stop, hstop⟩ := Option.isSome_iff_exists.mp someStop
    exact ⟨⟨start, interval.start⟩, ⟨stop, interval.stop⟩, whole, hstart, hstop⟩

theorem Reform.updates_of_isEmpty {reform : Reform} (h : reform.isEmpty) : reform.updates = [] := by
  have noEntries : reform.data.entries = [] := List.isEmpty_iff.mp h
  simp only [Reform.updates, noEntries, List.flatMap_nil]

namespace Plan

variable {plan : Plan}

theorem reportsStateTax_iff :
    plan.reportsStateTax ↔ plan.request.scope = .policy ∧ plan.isUsRegion := by
  cases scope : plan.request.scope <;> simp [reportsStateTax, scope]

theorem hasReform_of_updates (h : plan.reform.updates ≠ []) : plan.hasReform := by
  by_contra unnamed
  exact h (Reform.updates_of_isEmpty (by simpa [hasReform] using unnamed))

/-- What a script says over the span of the reform where it reports state income tax. -/
def overSpan (plan : Plan) (block : Span → List String) : Except ScriptError (List String) :=
  if plan.reportsStateTax then
    plan.request.policy.span.map fun span => span.elim [] block
  else .ok []

theorem baseline_eq_overSpan : plan.baseline = plan.overSpan baselineDefinition := by
  unfold baseline overSpan
  cases plan.request.policy.span with
  | error cause => rfl
  | ok span => cases span <;> rfl

theorem injectedTaxBlock_eq_overSpan : plan.injectedTaxBlock = plan.overSpan taxBlock := by
  unfold injectedTaxBlock overSpan
  cases plan.request.policy.span with
  | error cause => rfl
  | ok span => cases span <;> rfl

/-- The span over which a script reports state income tax, where it does. -/
def taxSpan (plan : Plan) : Except ScriptError (Option Span) :=
  if plan.reportsStateTax then plan.request.policy.span else .ok none

theorem overSpan_eq_taxSpan (block : Span → List String) :
    plan.overSpan block = plan.taxSpan.map fun span => span.elim [] block := by
  unfold overSpan taxSpan
  split <;> rfl

/-- State income tax is reported over a span if the reform has updates. -/
theorem isSome_taxSpan {span : Option Span} (resolved : plan.taxSpan = .ok span) :
    span.isSome ↔ plan.reportsStateTax ∧ plan.reform.updates ≠ [] := by
  unfold taxSpan at resolved
  split at resolved
  case isTrue reports =>
      have noSpan : plan.request.policy.span = .ok none ↔ plan.reform.updates = [] :=
        Span.ofKeys_eq_none
      rw [resolved, Except.ok.injEq] at noSpan
      simp only [reports, true_and, ne_eq, ← noSpan]
      cases span <;> simp
  case isFalse silent =>
      cases resolved
      simp [silent]

theorem isOk_overSpan {block : Span → List String} :
    (plan.overSpan block).isOk ↔ (plan.reportsStateTax → plan.request.policy.span.isOk) := by
  unfold overSpan
  split
  · cases plan.request.policy.span <;> simp_all [Except.map]
  · simp_all

theorem isOk_updateLines {update : Update} :
    (updateLines update).isOk ↔ (Interval.ofKey update.interval).isOk := by
  unfold updateLines
  cases Interval.ofKey update.interval <;> rfl

theorem isOk_allUpdateLines {updates : List Update} :
    (allUpdateLines updates).isOk ↔
      ∀ update ∈ updates, (Interval.ofKey update.interval).isOk := by
  simp only [← isOk_updateLines, ← Fallible.isOk_mapM, allUpdateLines]
  cases updates.mapM updateLines <;> rfl

theorem isOk_reformDefinition :
    plan.reformDefinition.isOk ↔
      (plan.hasReform → plan.reportsStateTax → plan.request.policy.span.isOk) ∧
      ∀ update ∈ plan.reform.updates, (Interval.ofKey update.interval).isOk := by
  unfold reformDefinition
  split
  case isTrue reformed =>
      rw [← isOk_allUpdateLines, Fallible.isOk_bind, injectedTaxBlock_eq_overSpan]
      have tax : (plan.overSpan taxBlock).isOk ↔ _ := isOk_overSpan
      constructor
      · intro defined
        obtain ⟨block, made, rest⟩ := defined
        obtain ⟨updates, written, _⟩ := Fallible.isOk_bind.mp rest
        exact ⟨fun _ => tax.mp (Fallible.isOk_iff.mpr ⟨_, made⟩), Fallible.isOk_iff.mpr ⟨_, written⟩⟩
      · intro conditions
        obtain ⟨spanned, split⟩ := conditions
        obtain ⟨block, made⟩ := Fallible.isOk_iff.mp (tax.mpr (spanned reformed))
        obtain ⟨updates, written⟩ := Fallible.isOk_iff.mp split
        exact ⟨block, made, Fallible.isOk_bind.mpr ⟨updates, written, rfl⟩⟩
  case isFalse unreformed =>
      have noneNamed : plan.reform.isEmpty := by simpa [hasReform] using unreformed
      simp [unreformed, Reform.updates_of_isEmpty noneNamed]

theorem isOk_situation_schema :
    (plan.situation .schema).isOk ↔ ∃ groups, plan.request.household = some (.obj groups) := by
  unfold situation
  cases given : plan.request.household with
  | none => simp [throw, throwThe, MonadExceptOf.throw]
  | some household =>
      cases household <;>
        simp [Normaliser.schema, bind, Except.bind, pure, Except.pure]

theorem isOk_householdSimulation_schema :
    (plan.householdSimulation .schema).isOk ↔
      (plan.request.scope = .household → ∃ groups, plan.request.household = some (.obj groups)) := by
  unfold householdSimulation
  cases plan.request.scope with
  | policy => simp
  | household =>
      rw [← isOk_situation_schema]
      cases plan.situation .schema <;> simp [bind, Except.bind, pure, Except.pure]

/-- A script is made of its parts in order. -/
theorem script_eq_ok {normaliser : Normaliser} {script : Script} :
    plan.script normaliser = .ok script ↔
      ∃ baseline reform simulation, plan.baseline = .ok baseline ∧
        plan.reformDefinition = .ok reform ∧ plan.householdSimulation normaliser = .ok simulation ∧
        script = ⟨plan.imports ++ baseline ++ reform ++ simulation ++ plan.comparison⟩ := by
  simp only [Plan.script, Fallible.bind_eq_ok, pure, Except.pure, Except.ok.injEq]
  constructor
  · intro parts
    obtain ⟨baseline, hbaseline, reform, hreform, simulation, hsimulation, rfl⟩ := parts
    exact ⟨baseline, reform, simulation, hbaseline, hreform, hsimulation, rfl⟩
  · intro parts
    obtain ⟨baseline, reform, simulation, hbaseline, hreform, hsimulation, rfl⟩ := parts
    exact ⟨baseline, hbaseline, reform, hreform, simulation, hsimulation, rfl⟩

theorem isOk_script {normaliser : Normaliser} :
    (plan.script normaliser).isOk ↔
      plan.baseline.isOk ∧ plan.reformDefinition.isOk ∧
        (plan.householdSimulation normaliser).isOk := by
  simp only [Fallible.isOk_iff, script_eq_ok]
  constructor
  · intro parts
    obtain ⟨_, baseline, reform, simulation, hbaseline, hreform, hsimulation, _⟩ := parts
    exact ⟨⟨_, hbaseline⟩, ⟨_, hreform⟩, ⟨_, hsimulation⟩⟩
  · intro parts
    obtain ⟨⟨_, hbaseline⟩, ⟨_, hreform⟩, ⟨_, hsimulation⟩⟩ := parts
    exact ⟨_, _, _, _, hbaseline, hreform, hsimulation, rfl⟩

end Plan

end SimulationScript
