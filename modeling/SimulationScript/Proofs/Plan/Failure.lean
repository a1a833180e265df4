import SimulationScript.Proofs.Plan.Success

/-! # Why there is no script

Every part of a plan fails for reasons of its own, and the first part that fails decides the error.
Where the dates of a policy are read, they are read before anything else, and once this went well no
later part fails.
-/

namespace SimulationScript

theorem Interval.ofKey_eq_error {key : String} {cause : ScriptError} :
    Interval.ofKey key = .error cause ↔
      ¬ (Interval.ofKey key).isOk ∧ cause = .malformedInterval key := by
  constructor
  · intro fails
    exact ⟨by simp [fails], Span.ofKey_eq_error fails⟩
  · intro unsplit
    obtain ⟨fails, rfl⟩ := unsplit
    cases split : Interval.ofKey key with
    | ok interval => simp [split] at fails
    | error cause => rw [Span.ofKey_eq_error split]

/-- The first interval key that does not split, in the order of the updates. -/
def FirstUnsplit (updates : List Update) (key : String) : Prop :=
  ∃ front update back, updates = front ++ update :: back ∧
    (∀ passed ∈ front, (Interval.ofKey passed.interval).isOk) ∧
    update.interval = key ∧ ¬ (Interval.ofKey key).isOk

namespace Normaliser

/-- The groups of a household in normal form, where a household without groups is refused. -/
def groups (normaliser : Normaliser) (household : Json) (info : Metadata) :
    Except ScriptError (List (String × Json)) := do
  match ← normaliser.normalise household info true with
  | .obj groups => return groups
  | _ => throw (.invalidHousehold "expected an object of entity groups")

/-- The normaliser finds groups in every household that has some, and refuses all other values. -/
structure TakesGroups (normaliser : Normaliser) (refusal : ScriptError) : Prop where
  takes : ∀ given info, (normaliser.groups (.obj given) info).isOk
  refuses : ∀ value info, ¬ value.isObject → normaliser.groups value info = .error refusal

def schemaRefusal : ScriptError :=
  .normalisation "household must be an object of entity groups"

def passthroughRefusal : ScriptError :=
  .invalidHousehold "expected an object of entity groups"

theorem schema_takesGroups : schema.TakesGroups schemaRefusal where
  takes _ _ := rfl
  refuses value _ shapeless := by
    cases value with
    | obj given => simp [Json.isObject] at shapeless
    | _ => rfl

theorem passthrough_takesGroups : passthrough.TakesGroups passthroughRefusal where
  takes _ _ := rfl
  refuses value _ shapeless := by
    cases value with
    | obj given => simp [Json.isObject] at shapeless
    | _ => rfl

end Normaliser

namespace Plan

variable {plan : Plan} {normaliser : Normaliser} {cause refusal : ScriptError}

theorem overSpan_eq_error {block : Span → List String} :
    plan.overSpan block = .error cause ↔
      plan.reportsStateTax ∧ plan.request.policy.span = .error cause := by
  unfold overSpan
  split
  case isTrue reports =>
      cases plan.request.policy.span <;> simp [reports, Except.map]
  case isFalse silent =>
      simp [silent]

theorem updateLines_eq_error {update : Update} :
    updateLines update = .error cause ↔
      ¬ (Interval.ofKey update.interval).isOk ∧ cause = .malformedInterval update.interval := by
  rw [← Interval.ofKey_eq_error]
  unfold updateLines
  cases Interval.ofKey update.interval <;> simp [bind, Except.bind, pure, Except.pure]

theorem allUpdateLines_eq_error {updates : List Update} :
    allUpdateLines updates = .error cause ↔
      ∃ key, FirstUnsplit updates key ∧ cause = .malformedInterval key := by
  have traversal : allUpdateLines updates = .error cause ↔
      updates.mapM updateLines = .error cause := by
    unfold allUpdateLines
    cases updates.mapM updateLines <;> simp [bind, Except.bind, pure, Except.pure]
  simp only [traversal, Fallible.mapM_eq_error, isOk_updateLines, updateLines_eq_error]
  constructor
  · intro failure
    obtain ⟨front, update, back, split, passed, unsplit, rfl⟩ := failure
    exact ⟨update.interval, ⟨front, update, back, split, passed, rfl, unsplit⟩, rfl⟩
  · intro failure
    obtain ⟨key, ⟨front, update, back, split, passed, rfl, unsplit⟩, rfl⟩ := failure
    exact ⟨front, update, back, split, passed, unsplit, rfl⟩

/-- Where the dates of the policy are not read, only an interval key can stop the reform. -/
theorem reformDefinition_eq_error (silent : ¬ plan.reportsStateTax) :
    plan.reformDefinition = .error cause ↔
      ∃ key, FirstUnsplit plan.reform.updates key ∧ cause = .malformedInterval key := by
  rw [← allUpdateLines_eq_error]
  have noTax : plan.injectedTaxBlock = .ok [] := by
    rw [injectedTaxBlock_eq_overSpan, overSpan, if_neg silent]
  unfold reformDefinition
  split
  case isTrue reformed =>
      cases allUpdateLines plan.reform.updates <;>
        simp [noTax, bind, Except.bind, pure, Except.pure]
  case isFalse unreformed =>
      have noneNamed : plan.reform.isEmpty := by simpa [hasReform] using unreformed
      simp [Reform.updates_of_isEmpty noneNamed, allUpdateLines, bind, Except.bind, pure,
        Except.pure]

theorem situation_eq_groups :
    plan.situation normaliser =
      match plan.request.household with
      | none => .error .householdMissing
      | some household =>
        (normaliser.groups household plan.request.info).map plan.situationOf := by
  unfold situation Normaliser.groups
  cases plan.request.household with
  | none => rfl
  | some household =>
      cases normalised : normaliser.normalise household plan.request.info true with
      | error cause => simp [normalised, bind, Except.bind, Except.map]
      | ok value =>
          cases value <;>
            simp [normalised, bind, Except.bind, pure, Except.pure, Except.map, throw, throwThe,
              MonadExceptOf.throw]

/-- What can be wrong with the household of a request. -/
def HouseholdFault (household : Option Json) (refusal cause : ScriptError) : Prop :=
  household = none ∧ cause = .householdMissing ∨
    ∃ value, household = some value ∧ ¬ value.isObject ∧ cause = refusal

theorem situation_eq_error (takesGroups : normaliser.TakesGroups refusal) :
    plan.situation normaliser = .error cause ↔
      HouseholdFault plan.request.household refusal cause := by
  rw [situation_eq_groups, HouseholdFault]
  cases plan.request.household with
  | none => simp [@eq_comm _ cause]
  | some value =>
      by_cases shaped : value.isObject
      · cases value with
        | obj given =>
            obtain ⟨found, taken⟩ :=
              Fallible.isOk_iff.mp (takesGroups.takes given plan.request.info)
            simp [taken, Json.isObject, Except.map]
        | _ => simp [Json.isObject] at shaped
      · simp [takesGroups.refuses value plan.request.info shaped, shaped, Except.map,
          @eq_comm _ cause]

theorem householdSimulation_of_policy (population : plan.request.scope = .policy) :
    plan.householdSimulation normaliser = .ok [] := by
  simp only [householdSimulation, population]

theorem householdSimulation_eq_error (takesGroups : normaliser.TakesGroups refusal)
    (single : plan.request.scope = .household) :
    plan.householdSimulation normaliser = .error cause ↔
      HouseholdFault plan.request.household refusal cause := by
  rw [← situation_eq_error takesGroups]
  simp only [householdSimulation, single]
  cases plan.situation normaliser <;> simp [bind, Except.bind, pure, Except.pure]

/-- The first part that fails decides the error. -/
theorem script_eq_error :
    plan.script normaliser = .error cause ↔
      plan.baseline = .error cause ∨
      (plan.baseline.isOk ∧ plan.reformDefinition = .error cause) ∨
      (plan.baseline.isOk ∧ plan.reformDefinition.isOk ∧
        plan.householdSimulation normaliser = .error cause) := by
  unfold Plan.script
  cases plan.baseline with
  | error => simp [bind, Except.bind]
  | ok baseline =>
      cases plan.reformDefinition with
      | error => simp [bind, Except.bind]
      | ok reform =>
          cases plan.householdSimulation normaliser <;>
            simp [bind, Except.bind, pure, Except.pure]

/-- Where the dates of the policy are read, nothing else can fail. -/
theorem script_eq_error_of_reports (reports : plan.reportsStateTax) :
    plan.script normaliser = .error cause ↔ plan.request.policy.span = .error cause := by
  have population : plan.request.scope = .policy := (reportsStateTax_iff.mp reports).1
  have first : plan.baseline = .error cause ↔ plan.request.policy.span = .error cause := by
    simp [baseline_eq_overSpan, overSpan_eq_error, reports]
  rw [script_eq_error, first, householdSimulation_of_policy population]
  by_cases spanned : plan.request.policy.span.isOk
  · -- all keys have been split by the pass over the dates
    obtain ⟨split, _⟩ := Policy.isOk_span_iff.mp spanned
    have defined : plan.reformDefinition.isOk := isOk_reformDefinition.mpr ⟨fun _ _ => spanned, split⟩
    obtain ⟨reform, made⟩ := Fallible.isOk_iff.mp defined
    simp [made]
  · have stopped : ¬ plan.baseline.isOk := by
      rw [baseline_eq_overSpan, isOk_overSpan]
      exact fun onward => spanned (onward reports)
    simp [stopped]

theorem script_eq_error_of_silent (silent : ¬ plan.reportsStateTax) :
    plan.script normaliser = .error cause ↔
      (∃ key, FirstUnsplit plan.reform.updates key ∧ cause = .malformedInterval key) ∨
      ((∀ update ∈ plan.reform.updates, (Interval.ofKey update.interval).isOk) ∧
        plan.householdSimulation normaliser = .error cause) := by
  have noBaseline : plan.baseline = .ok [] := by
    rw [baseline_eq_overSpan, overSpan, if_neg silent]
  have defined : plan.reformDefinition.isOk ↔
      ∀ update ∈ plan.reform.updates, (Interval.ofKey update.interval).isOk := by
    simp [isOk_reformDefinition, silent]
  simp [script_eq_error, noBaseline, reformDefinition_eq_error silent, defined]

end Plan

/-- Why no script is generated for a request. The population of a US region needs a span, any other
    request only interval keys that split, and a household simulation then a household made of
    groups; `refusal` is what becomes of every other household. -/
inductive Failure (config : Config) (request : Request) (refusal : ScriptError) :
    ScriptError → Prop where
  | span {cause : ScriptError} : request.scope = .policy → config.isUsRegion request.region →
      request.policy.span = .error cause → Failure config request refusal cause
  | key {key : String} : (request.scope = .policy → ¬ config.isUsRegion request.region) →
      FirstUnsplit request.policy.reform.updates key →
      Failure config request refusal (.malformedInterval key)
  | noHousehold : request.scope = .household →
      (∀ update ∈ request.policy.reform.updates, (Interval.ofKey update.interval).isOk) →
      request.household = none → Failure config request refusal .householdMissing
  | noGroups {value : Json} : request.scope = .household →
      (∀ update ∈ request.policy.reform.updates, (Interval.ofKey update.interval).isOk) →
      request.household = some value → ¬ value.isObject → Failure config request refusal refusal

theorem Plan.not_reportsStateTax_iff {plan : Plan} :
    ¬ plan.reportsStateTax ↔
      (plan.request.scope = .policy → ¬ plan.config.isUsRegion plan.request.region) := by
  rw [Plan.reportsStateTax_iff, Plan.isUsRegion, not_and]

theorem Plan.script_eq_error_iff_failure {plan : Plan} {normaliser : Normaliser}
    {refusal cause : ScriptError} (takesGroups : normaliser.TakesGroups refusal) :
    plan.script normaliser = .error cause ↔ Failure plan.config plan.request refusal cause := by
  have silentOfHousehold (single : plan.request.scope = .household) : ¬ plan.reportsStateTax :=
    Plan.not_reportsStateTax_iff.mpr fun population => by simp [population] at single
  constructor
  · intro failed
    by_cases reports : plan.reportsStateTax
    · obtain ⟨population, us⟩ := Plan.reportsStateTax_iff.mp reports
      exact .span population us ((Plan.script_eq_error_of_reports reports).mp failed)
    · rcases (Plan.script_eq_error_of_silent reports).mp failed with
        ⟨key, first, rfl⟩ | ⟨split, simulation⟩
      · exact .key (Plan.not_reportsStateTax_iff.mp reports) first
      · cases scope : plan.request.scope with
        | policy =>
            rw [Plan.householdSimulation_of_policy scope] at simulation
            cases simulation
        | household =>
            rcases (Plan.householdSimulation_eq_error takesGroups scope).mp simulation with
              ⟨missing, rfl⟩ | ⟨value, given, shapeless, rfl⟩
            · exact .noHousehold scope split missing
            · exact .noGroups scope split given shapeless
  · intro failure
    cases failure with
    | span population us failed =>
        have reports : plan.reportsStateTax := Plan.reportsStateTax_iff.mpr ⟨population, us⟩
        exact (Plan.script_eq_error_of_reports reports).mpr failed
    | key elsewhere first =>
        have silent := Plan.not_reportsStateTax_iff.mpr elsewhere
        exact (Plan.script_eq_error_of_silent silent).mpr (.inl ⟨_, first, rfl⟩)
    | noHousehold scope split missing =>
        have fault : HouseholdFault plan.request.household refusal .householdMissing :=
          .inl ⟨missing, rfl⟩
        have simulation := (Plan.householdSimulation_eq_error takesGroups scope).mpr fault
        exact (Plan.script_eq_error_of_silent (silentOfHousehold scope)).mpr
          (.inr ⟨split, simulation⟩)
    | noGroups scope split given shapeless =>
        have fault : HouseholdFault plan.request.household refusal refusal :=
          .inr ⟨_, given, shapeless, rfl⟩
        have simulation := (Plan.householdSimulation_eq_error takesGroups scope).mpr fault
        exact (Plan.script_eq_error_of_silent (silentOfHousehold scope)).mpr
          (.inr ⟨split, simulation⟩)

/-- With the given normaliser, a request gets a script unless it has a failure, which then is the
    error. The literal of a household can always be written. -/
structure FailsAsListed (normaliser : Normaliser) (refusal : ScriptError) (config : Config)
    (request : Request) : Prop where
  error : ∀ cause, generate normaliser config request = .error cause ↔
    Failure config request refusal cause
  script : (∃ script, generate normaliser config request = .ok script) ↔
    ∀ cause, ¬ Failure config request refusal cause
  serialized : ∀ reason, generate normaliser config request ≠ .error (.serialization reason)

theorem Normaliser.TakesGroups.failsAsListed {normaliser : Normaliser} {refusal : ScriptError}
    (takesGroups : normaliser.TakesGroups refusal) (written : ∀ reason, refusal ≠ .serialization reason)
    (config : Config) (request : Request) : FailsAsListed normaliser refusal config request := by
  have error (cause : ScriptError) : generate normaliser config request = .error cause ↔
      Failure config request refusal cause :=
    Plan.script_eq_error_iff_failure takesGroups
  refine ⟨error, ?_, ?_⟩
  · simp only [← error]
    cases generate normaliser config request <;> simp
  · intro reason failed
    generalize same : ScriptError.serialization reason = cause at failed
    cases (error cause).mp failed with
    | span _ _ unread =>
        obtain ⟨_, update, _, _, _, refused⟩ := Span.ofKeys_eq_error.mp unread
        subst same
        cases refused
    | key | noHousehold => cases same
    | noGroups => exact written reason same.symm

/-- What comes of a request under either normaliser. -/
theorem generation_fails_as_listed (config : Config) (request : Request) :
    FailsAsListed .schema Normaliser.schemaRefusal config request ∧
      FailsAsListed .passthrough Normaliser.passthroughRefusal config request :=
  ⟨Normaliser.schema_takesGroups.failsAsListed (by simp [Normaliser.schemaRefusal]) config request,
    Normaliser.passthrough_takesGroups.failsAsListed (by simp [Normaliser.passthroughRefusal]) config
      request⟩

end SimulationScript
