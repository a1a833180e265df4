import SimulationScript.Proofs.Plan.Entries
import SimulationScript.Proofs.Policy.Key

/-! # The instants of a script

Endpoints go into a script as they were written, between the quotes of a string. Where state income
tax is reported they all spell dates, so none of them holds a quote or a backslash.
-/

namespace SimulationScript.Plan

variable {plan : Plan} {lines : List String} {line start stop : String}

/-- How the entries begin that give instants. -/
def instantHead : String := "        start=instant(\""

/-- The entry that gives the instants between which a parameter is set. -/
def instantEntry (start stop : String) : String :=
  instantHead ++ start ++ "\"), stop=instant(\"" ++ stop ++ "\"),"

theorem begins_instantEntry (start stop : String) : Begins instantHead (instantEntry start stop) := by
  simp only [instantEntry, String.append_assoc]
  exact begins_append _ _

theorem toList_instantEntry (start stop : String) :
    (instantEntry start stop).toList = instantHead.toList ++ (start.toList ++
      '"' :: ("), stop=instant(".toList ++ '"' :: (stop.toList ++ '"' :: "),".toList))) := by
  simp [instantEntry]

/-- Texts without quotes can be told from the entry that quotes them, even among texts with quotes. -/
theorem instantEntry_inj {start' stop' : String} (plain : '"' ∉ start'.toList)
    (plain' : '"' ∉ stop'.toList) (same : instantEntry start stop = instantEntry start' stop') :
    start = start' ∧ stop = stop' := by
  have texts := congrArg String.toList same
  rw [toList_instantEntry, toList_instantEntry, List.append_cancel_left_eq] at texts
  -- both texts hold three quotes besides those in the texts quoted
  have quotes := congrArg (List.count '"') texts
  simp only [List.count_append, List.count_cons_self, List.count_eq_zero_of_not_mem plain,
    List.count_eq_zero_of_not_mem plain'] at quotes
  have startPlain : '"' ∉ start.toList := List.count_eq_zero.mp (by omega)
  have stopPlain : '"' ∉ stop.toList := List.count_eq_zero.mp (by omega)
  obtain ⟨sameStart, texts⟩ := Text.append_mark_inj startPlain plain texts
  obtain ⟨_, texts⟩ := Text.append_mark_inj (by decide) (by decide) texts
  obtain ⟨sameStop, _⟩ := Text.append_mark_inj stopPlain plain' texts
  exact ⟨String.toList_injective sameStart, String.toList_injective sameStop⟩

/-! ## Where instants stand -/

theorem mem_updateBlock_iff {parameter value : String} (begun : Begins instantHead line) :
    line ∈ updateBlock parameter start stop value ↔ line = instantEntry start stop := by
  have notFirst : line ≠ "    parameters." ++ parameter ++ ".update(" := by
    rintro rfl
    rw [String.append_assoc] at begun
    exact absurd (begun.comparable (begins_append _ _)) (by decide)
  have notLast : line ≠ "        value=" ++ value ++ ")" := by
    rintro rfl
    rw [String.append_assoc] at begun
    exact absurd (begun.comparable (begins_append _ _)) (by decide)
  simp [updateBlock, notFirst, notLast, instantEntry, instantHead]

theorem mem_allUpdateLines_iff {updates : List Update} (h : allUpdateLines updates = .ok lines)
    (begun : Begins instantHead line) :
    line ∈ lines ↔ ∃ update ∈ updates, ∃ interval, Interval.ofKey update.interval = .ok interval ∧
      line = instantEntry interval.start interval.stop := by
  obtain ⟨blocks, read, written⟩ := Fallible.bind_eq_ok.mp h
  cases written
  rw [List.mem_flatten]
  constructor
  · intro member
    obtain ⟨block, hblock, hline⟩ := member
    obtain ⟨update, hupdate, made⟩ := Fallible.exists_of_mem_mapM read hblock
    obtain ⟨interval, split, written⟩ := Fallible.bind_eq_ok.mp made
    cases written
    exact ⟨update, hupdate, interval, split, (mem_updateBlock_iff begun).mp hline⟩
  · intro given
    obtain ⟨update, hupdate, interval, split, entry⟩ := given
    obtain ⟨block, hblock, made⟩ := Fallible.exists_partner (Fallible.mapM_eq_ok.mp read) hupdate
    obtain ⟨interval', split', written⟩ := Fallible.bind_eq_ok.mp made
    cases written
    obtain rfl := Except.ok.inj (split.symm.trans split')
    exact ⟨_, hblock, (mem_updateBlock_iff begun).mpr entry⟩

/-- The instants that a plan gives: those over which state income tax is reported, and those of every
    update. -/
def GivesInstants (plan : Plan) (start stop : String) : Prop :=
  plan.taxSpan = .ok (some ⟨start, stop⟩) ∨
    ∃ update ∈ plan.reform.updates, Interval.ofKey update.interval = .ok ⟨start, stop⟩

theorem mem_baselineDefinition_iff {span : Span} (begun : Begins instantHead line) :
    line ∈ baselineDefinition span ↔ line = instantEntry span.earliestStart span.latestEnd := by
  have avoids : ∀ other ∈ baselineShape.fixed, ¬ Begins instantHead other := by decide
  have notFixed : line ∉ baselineShape.fixed := fun fixed => avoids line fixed begun
  simp only [baselineShape, List.mem_append, not_or] at notFixed
  rw [baselineDefinition, List.mem_append, List.mem_append, or_iff_left notFixed.2,
    or_iff_right notFixed.1, taxBlock, mem_updateBlock_iff begun]

theorem mem_baseline_iff (h : plan.baseline = .ok lines) (begun : Begins instantHead line) :
    line ∈ lines ↔ ∃ span, plan.taxSpan = .ok (some span) ∧
      line = instantEntry span.earliestStart span.latestEnd := by
  rw [baseline_eq_overSpan] at h
  simp only [mem_overSpan_iff h, mem_baselineDefinition_iff begun]

theorem mem_reformDefinition_iff (h : plan.reformDefinition = .ok lines)
    (begun : Begins instantHead line) :
    line ∈ lines ↔ plan.hasReform ∧ ∃ start stop, plan.GivesInstants start stop ∧
      line = instantEntry start stop := by
  rw [reformDefinition_eq_ok] at h
  split at h
  case isTrue reformed =>
      obtain ⟨tax, updates, htax, hupdates, rfl⟩ := h
      have avoids : ∀ other ∈ reformShape.fixed, ¬ Begins instantHead other := by decide
      have notFixed : line ∉ reformShape.fixed := fun fixed => avoids line fixed begun
      simp only [reformShape, List.mem_append, not_or] at notFixed
      rw [List.mem_append, List.mem_append, List.mem_append, or_iff_left notFixed.2,
        or_iff_right notFixed.1, mem_overSpan_iff htax, mem_allUpdateLines_iff hupdates begun]
      simp only [taxBlock, mem_updateBlock_iff begun, reformed, true_and]
      constructor
      · intro member
        rcases member with ⟨span, resolved, entry⟩ | ⟨update, hupdate, interval, split, entry⟩
        · exact ⟨_, _, .inl resolved, entry⟩
        · exact ⟨_, _, .inr ⟨update, hupdate, split⟩, entry⟩
      · intro given
        obtain ⟨start, stop, resolved | ⟨update, hupdate, split⟩, entry⟩ := given
        · exact .inl ⟨_, resolved, entry⟩
        · exact .inr ⟨update, hupdate, _, split, entry⟩
  case isFalse unreformed =>
      subst h
      simp [unreformed]

theorem GivesInstants.hasReform (given : plan.GivesInstants start stop) : plan.hasReform := by
  apply hasReform_of_updates
  rcases given with resolved | ⟨update, hupdate, _⟩
  · exact ((isSome_taxSpan resolved).mp rfl).2
  · exact List.ne_nil_of_mem hupdate

section WholeScript

variable {normaliser : Normaliser} {script : Script}

/-- The instants of a script are the ones that its plan gives. -/
theorem mem_script_iff (h : plan.script normaliser = .ok script) (begun : Begins instantHead line) :
    line ∈ script.lines ↔ ∃ start stop, plan.GivesInstants start stop ∧
      line = instantEntry start stop := by
  obtain ⟨baseline, reform, simulation, hbaseline, hreform, hsimulation, rfl⟩ := script_eq_ok.mp h
  have avoids : importsShape.Avoids instantHead ∧ comparisonShape.Avoids instantHead ∧
      ∀ reformed, (simulationShape reformed).Avoids instantHead := by decide
  have notImported : line ∉ plan.imports := fun member =>
    avoids.1.not_begins (imports_fit member) begun
  have notCompared : line ∉ plan.comparison := fun member =>
    avoids.2.1.not_begins (comparison_fits member) begun
  have notSimulated : line ∉ simulation := fun member =>
    (avoids.2.2 _).not_begins (householdSimulation_fits hsimulation member) begun
  simp only [List.mem_append, notImported, notCompared, notSimulated, false_or, or_false,
    mem_baseline_iff hbaseline begun, mem_reformDefinition_iff hreform begun]
  constructor
  · intro member
    rcases member with ⟨span, resolved, entry⟩ | ⟨_, given⟩
    · exact ⟨_, _, .inl resolved, entry⟩
    · exact given
  · intro given
    obtain ⟨start, stop, given, entry⟩ := given
    exact .inr ⟨given.hasReform, start, stop, given, entry⟩

end WholeScript

/-! ## What instants are written as -/

/-- A text stands between the quotes of an instant. -/
def IsInstantText (text : String) (lines : List String) : Prop :=
  ∃ start stop, instantEntry start stop ∈ lines ∧ (text = start ∨ text = stop)

/-- A text is an endpoint of an update, as it was written. -/
def IsEndpoint (policy : Policy) (text : String) : Prop :=
  ∃ update ∈ policy.reform.updates, ∃ start stop, Span.Reads update.interval start stop ∧
    (text = start.written ∨ text = stop.written)

theorem IsEndpoint.parses {policy : Policy} {text : String} (endpoint : IsEndpoint policy text) :
    ∃ date, Date.parse? text = some date := by
  obtain ⟨update, _, start, stop, read, rfl | rfl⟩ := endpoint
  · exact ⟨_, read.startDay⟩
  · exact ⟨_, read.stopDay⟩

theorem IsEndpoint.plain {policy : Policy} {text : String} (endpoint : IsEndpoint policy text) :
    '"' ∉ text.toList ∧ '\\' ∉ text.toList := by
  obtain ⟨date, parsed⟩ := endpoint.parses
  exact ⟨fun member => absurd (Date.parse?_characters parsed _ member) (by decide),
    fun member => absurd (Date.parse?_characters parsed _ member) (by decide)⟩

theorem GivesInstants.endpoints (given : plan.GivesInstants start stop) (reports : plan.reportsStateTax)
    (readable : plan.request.policy.span.isOk) :
    IsEndpoint plan.request.policy start ∧ IsEndpoint plan.request.policy stop := by
  rcases given with resolved | ⟨update, hupdate, split⟩
  · rw [taxSpan, if_pos reports] at resolved
    obtain ⟨fromStart, fromStop⟩ := Span.exists_updates_of_span resolved
    obtain ⟨update, hupdate, first, last, read, same⟩ := fromStart
    obtain ⟨update', hupdate', first', last', read', same'⟩ := fromStop
    exact ⟨⟨update, hupdate, first, last, read, .inl same⟩,
      ⟨update', hupdate', first', last', read', .inr same'⟩⟩
  · obtain ⟨first, last, read⟩ := Policy.isOk_span.mp readable update hupdate
    cases Except.ok.inj (read.interval.symm.trans split)
    exact ⟨⟨update, hupdate, first, last, read, .inl rfl⟩,
      ⟨update, hupdate, first, last, read, .inr rfl⟩⟩

theorem isOk_span_of_script {normaliser : Normaliser} {script : Script}
    (h : plan.script normaliser = .ok script) (reports : plan.reportsStateTax) :
    plan.request.policy.span.isOk := by
  obtain ⟨baseline, _, _, made, _⟩ := script_eq_ok.mp h
  rw [baseline_eq_overSpan] at made
  exact isOk_overSpan.mp (Fallible.isOk_iff.mpr ⟨_, made⟩) reports

/-- Where state income tax is reported, the texts between the quotes of instants are the endpoints of
    the updates. -/
theorem isInstantText_iff {normaliser : Normaliser} {script : Script}
    (h : plan.script normaliser = .ok script) (reports : plan.reportsStateTax) {text : String} :
    IsInstantText text script.lines ↔ IsEndpoint plan.request.policy text := by
  have readable := isOk_span_of_script h reports
  constructor
  · intro instant
    obtain ⟨start, stop, member, which⟩ := instant
    obtain ⟨start', stop', given, entry⟩ := (mem_script_iff h (begins_instantEntry _ _)).mp member
    obtain ⟨fromStart, fromStop⟩ := given.endpoints reports readable
    obtain ⟨rfl, rfl⟩ := instantEntry_inj fromStart.plain.1 fromStop.plain.1 entry
    rcases which with rfl | rfl
    · exact fromStart
    · exact fromStop
  · intro endpoint
    obtain ⟨update, hupdate, start, stop, read, which⟩ := endpoint
    have given : plan.GivesInstants start.written stop.written := .inr ⟨update, hupdate, read.interval⟩
    exact ⟨_, _, (mem_script_iff h (begins_instantEntry _ _)).mpr ⟨_, _, given, rfl⟩, which⟩

/-- A line of source ends in the text. -/
def HasBreak (text : String) : Prop :=
  '\n' ∈ text.toList ∨ '\r' ∈ text.toList

instance (text : String) : Decidable (HasBreak text) :=
  inferInstanceAs (Decidable (_ ∨ _))

theorem hasBreak_key {interval : Interval} :
    HasBreak interval.key ↔ HasBreak interval.start ∨ HasBreak interval.stop := by
  simp only [HasBreak, Interval.toList_key, List.mem_append, List.mem_cons]
  simp
  tauto

/-- What a text must not hold to be quoted as it is on one line. -/
structure IsLiteralBody (text : String) : Prop where
  noQuote : '"' ∉ text.toList
  noEscape : '\\' ∉ text.toList
  noBreak : ¬ HasBreak text

/-- In a population run of a US region no text between the quotes of an instant holds a quote or a
    backslash. All of them are literals on one line unless the key of an update holds a line break,
    which counts as a blank around a date and goes into the script with it. -/
theorem instant_texts_are_literals {normaliser : Normaliser} {config : Config} {request : Request}
    {script : Script} (generated : generate normaliser config request = .ok script)
    (population : request.scope = .policy) (us : config.isUsRegion request.region) :
    (∀ line ∈ script.lines, Begins instantHead line → ∃ start stop, line = instantEntry start stop) ∧
    (∀ text, IsInstantText text script.lines → '"' ∉ text.toList ∧ '\\' ∉ text.toList) ∧
    ((∀ text, IsInstantText text script.lines → IsLiteralBody text) ↔
      ∀ update ∈ request.policy.reform.updates, ¬ HasBreak update.interval) := by
  let plan : Plan := ⟨request, config⟩
  have made : plan.script normaliser = .ok script := generated
  have reports : plan.reportsStateTax := reportsStateTax_iff.mpr ⟨population, us⟩
  have instants {text : String} : IsInstantText text script.lines ↔ IsEndpoint request.policy text :=
    isInstantText_iff made reports
  have readable := Policy.isOk_span.mp (isOk_span_of_script made reports)
  refine ⟨?_, fun text instant => (instants.mp instant).plain, ?_⟩
  · intro line member begun
    obtain ⟨start, stop, _, entry⟩ := (mem_script_iff made begun).mp member
    exact ⟨start, stop, entry⟩
  · constructor
    · intro literals update hupdate broken
      obtain ⟨start, stop, read⟩ := readable update hupdate
      rw [← Interval.key_of_ofKey read.interval, hasBreak_key] at broken
      rcases broken with broken | broken
      · exact (literals _ (instants.mpr ⟨update, hupdate, start, stop, read, .inl rfl⟩)).noBreak broken
      · exact (literals _ (instants.mpr ⟨update, hupdate, start, stop, read, .inr rfl⟩)).noBreak broken
    · intro unbroken text instant
      have endpoint := instants.mp instant
      refine ⟨endpoint.plain.1, endpoint.plain.2, fun broken => ?_⟩
      obtain ⟨update, hupdate, start, stop, read, which⟩ := endpoint
      apply unbroken update hupdate
      rw [← Interval.key_of_ofKey read.interval, hasBreak_key]
      rcases which with rfl | rfl
      · exact .inl broken
      · exact .inr broken

/-- A population run of a US region with one update. -/
def runOver (key : String) : Request :=
  (Request.ofRegion (.ofPackage "policyengine_us") "us").withReform
    (Reform.empty.withUpdate ⟨"gov.a", key, .flag true⟩)

theorem spaced_instants_are_literals :
    ∃ script, generate .schema .standard (runOver " 12/31/2019 .2023-06-30T00:00:00Z") = .ok script ∧
      IsInstantText " 12/31/2019 " script.lines ∧
      ∀ text, IsInstantText text script.lines → IsLiteralBody text := by
  obtain ⟨script, generated⟩ : ∃ script,
      generate .schema .standard (runOver " 12/31/2019 .2023-06-30T00:00:00Z") = .ok script :=
    ⟨_, rfl⟩
  have literals := (instant_texts_are_literals generated rfl (by decide)).2.2.mpr (by decide)
  refine ⟨script, generated, ⟨_, "2023-06-30T00:00:00Z", ?_, .inl rfl⟩, literals⟩
  cases generated
  decide

theorem broken_instant_is_no_literal :
    ∃ script, generate .schema .standard (runOver "2023-01-01\n.2023-12-31") = .ok script ∧
      IsInstantText "2023-01-01\n" script.lines ∧ ¬ IsLiteralBody "2023-01-01\n" := by
  refine ⟨_, rfl, ⟨_, "2023-12-31", by decide, .inl rfl⟩, ?_⟩
  intro literal
  exact literal.noBreak (by decide)

end SimulationScript.Plan
