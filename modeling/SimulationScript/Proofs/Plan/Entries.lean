import SimulationScript.Proofs.Plan.Success

/-! # The entries of a script

Which entries the parts of a script consist of, and how their text begins. Nothing that a request
brings into a script begins an entry.
-/

namespace SimulationScript.Plan

variable {plan : Plan} {lines : List String} {line : String}

theorem overSpan_eq_ok {block : Span → List String} :
    plan.overSpan block = .ok lines ↔
      ∃ span, plan.taxSpan = .ok span ∧ lines = span.elim [] block := by
  rw [overSpan_eq_taxSpan]
  cases plan.taxSpan <;> simp [Except.map, eq_comm]

theorem reformDefinition_eq_ok :
    plan.reformDefinition = .ok lines ↔
      if plan.hasReform then
        ∃ tax updates, plan.overSpan taxBlock = .ok tax ∧
          allUpdateLines plan.reform.updates = .ok updates ∧
          lines = ["", "", "def modify_parameters(parameters):"] ++ tax ++ updates ++
            reformClass "reform" "modify_parameters"
      else lines = [] := by
  unfold reformDefinition
  split
  · simp only [Fallible.bind_eq_ok, injectedTaxBlock_eq_overSpan, pure, Except.pure,
      Except.ok.injEq]
    constructor
    · intro parts
      obtain ⟨tax, htax, updates, hupdates, rfl⟩ := parts
      exact ⟨tax, updates, htax, hupdates, rfl⟩
    · intro parts
      obtain ⟨tax, updates, htax, hupdates, rfl⟩ := parts
      exact ⟨tax, htax, updates, hupdates, rfl⟩
  · simp [eq_comm]

theorem householdSimulation_eq_ok {normaliser : Normaliser} :
    plan.householdSimulation normaliser = .ok lines ↔
      match plan.request.scope with
      | .policy => lines = []
      | .household => ∃ situation, plan.situation normaliser = .ok situation ∧
          lines = plan.simulationLines situation := by
  unfold householdSimulation
  cases plan.request.scope with
  | policy => simp [eq_comm]
  | household =>
      simp only [Fallible.bind_eq_ok, pure, Except.pure, Except.ok.injEq, @eq_comm _ _ lines]

/-! ## How entries begin -/

/-- The text of an entry begins with a given text. -/
def Begins (start line : String) : Prop :=
  start.toList <+: line.toList

instance (start line : String) : Decidable (Begins start line) :=
  inferInstanceAs (Decidable (_ <+: _))

theorem begins_append (start rest : String) : Begins start (start ++ rest) := by
  simp [Begins]

/-- Of two texts that begin one entry, one begins the other. -/
theorem Begins.comparable {left right : String} (hleft : Begins left line)
    (hright : Begins right line) : Begins left right ∨ Begins right left :=
  List.prefix_or_prefix_of_prefix hleft hright

/-- The entries of a part of a script: some are the same for every request, the others begin with one
    of a few texts. -/
structure Shape where
  fixed : List String
  starts : List String

namespace Shape

variable {shape : Shape} {start : String}

def Fits (shape : Shape) (line : String) : Prop :=
  line ∈ shape.fixed ∨ ∃ start ∈ shape.starts, Begins start line

instance : Decidable (shape.Fits line) :=
  inferInstanceAs (Decidable (_ ∨ _))

/-- No entry of the shape can begin with the text. -/
def Avoids (shape : Shape) (start : String) : Prop :=
  (∀ line ∈ shape.fixed, ¬ Begins start line) ∧
    ∀ other ∈ shape.starts, ¬ Begins start other ∧ ¬ Begins other start

instance : Decidable (shape.Avoids start) :=
  inferInstanceAs (Decidable (_ ∧ _))

theorem Avoids.not_begins (avoids : shape.Avoids start) (fits : shape.Fits line) :
    ¬ Begins start line := by
  intro begun
  rcases fits with fixed | ⟨other, among, begun'⟩
  · exact avoids.1 line fixed begun
  · obtain ⟨longer, shorter⟩ := avoids.2 other among
    exact (begun.comparable begun').elim longer shorter

end Shape

def importsShape : Shape := ⟨[], ["from "]⟩

theorem imports_fit (h : line ∈ plan.imports) : importsShape.Fits line := by
  refine .inr ⟨"from ", List.mem_singleton_self _, ?_⟩
  simp only [imports, List.mem_cons] at h
  rcases h with rfl | h
  · simp only [String.append_assoc]
    exact begins_append _ _
  · split at h
    · simp only [List.mem_cons, List.not_mem_nil, or_false] at h
      rcases h with rfl | rfl <;> decide
    · cases h

/-- The first line of an update statement names the parameter, the others are indented further. -/
def updateStarts : List String :=
  ["    parameters.", "        "]

theorem updateBlock_begin {parameter start stop value : String}
    (h : line ∈ updateBlock parameter start stop value) :
    ∃ start ∈ updateStarts, Begins start line := by
  simp only [updateBlock, List.mem_cons, List.not_mem_nil, or_false] at h
  rcases h with rfl | rfl | rfl
  · refine ⟨"    parameters.", by simp [updateStarts], ?_⟩
    simp only [String.append_assoc]
    exact begins_append _ _
  · exact ⟨"        ", by simp [updateStarts], by simp [Begins]⟩
  · exact ⟨"        ", by simp [updateStarts], by simp [Begins]⟩

theorem allUpdateLines_begin {updates : List Update} (h : allUpdateLines updates = .ok lines)
    (member : line ∈ lines) : ∃ start ∈ updateStarts, Begins start line := by
  obtain ⟨blocks, read, written⟩ := Fallible.bind_eq_ok.mp h
  cases written
  obtain ⟨block, hblock, hline⟩ := List.mem_flatten.mp member
  obtain ⟨update, _, made⟩ := Fallible.exists_of_mem_mapM read hblock
  obtain ⟨interval, _, written⟩ := Fallible.bind_eq_ok.mp made
  cases written
  exact updateBlock_begin hline

theorem mem_overSpan_iff {block : Span → List String} (h : plan.overSpan block = .ok lines) :
    line ∈ lines ↔ ∃ span, plan.taxSpan = .ok (some span) ∧ line ∈ block span := by
  obtain ⟨span, resolved, rfl⟩ := overSpan_eq_ok.mp h
  cases span <;> simp [resolved]

def baselineShape : Shape where
  fixed := ["", "", "\"\"\"", "In US nationwide simulations,",
    "use reported state income tax liabilities", "\"\"\"", "def modify_baseline(parameters):"] ++
      reformClass "baseline_reform" "modify_baseline"
  starts := updateStarts

theorem baseline_fits (h : plan.baseline = .ok lines) (member : line ∈ lines) :
    baselineShape.Fits line := by
  rw [baseline_eq_overSpan] at h
  obtain ⟨span, _, written⟩ := (mem_overSpan_iff h).mp member
  simp only [baselineDefinition, List.mem_append] at written
  rcases written with (head | inTax) | tail
  · exact .inl (List.mem_append_left _ head)
  · exact .inr (updateBlock_begin inTax)
  · exact .inl (List.mem_append_right _ tail)

def reformShape : Shape where
  fixed := ["", "", "def modify_parameters(parameters):"] ++ reformClass "reform" "modify_parameters"
  starts := updateStarts

theorem reformDefinition_fits (h : plan.reformDefinition = .ok lines) (member : line ∈ lines) :
    reformShape.Fits line := by
  rw [reformDefinition_eq_ok] at h
  split at h
  · obtain ⟨tax, updates, htax, hupdates, rfl⟩ := h
    simp only [List.mem_append] at member
    rcases member with ((head | inTax) | inUpdates) | tail
    · exact .inl (List.mem_append_left _ head)
    · obtain ⟨span, _, written⟩ := (mem_overSpan_iff htax).mp inTax
      exact .inr (updateBlock_begin written)
    · exact .inr (allUpdateLines_begin hupdates inUpdates)
    · exact .inl (List.mem_append_right _ tail)
  · subst h
    cases member

/-- The argument of a household simulation that hands the reform over, where there is one. -/
def reformArgument (reformed : Bool) : List String :=
  if reformed then ["    reform=reform,"] else []

/-- What follows the household in its simulation. -/
def simulationTail (plan : Plan) : List String :=
  ["", "simulation = Simulation("] ++ reformArgument plan.hasReform ++
    ["    situation=situation,", ")", "",
      "output = simulation.calculate(\"" ++ plan.config.outputVariable ++ "\", " ++
        plan.year.text ++ ")",
      "print(output)"]

theorem simulationLines_eq (situation : Json) :
    plan.simulationLines situation =
      ["", ""] ++ ("situation = " ++ Literal.ofJson situation) :: plan.simulationTail :=
  rfl

/-- The entries after the household that do not depend on the reform. -/
def simulationFrame : List String :=
  ["", "simulation = Simulation(", "    situation=situation,", ")", "print(output)"]

def simulationTailShape (reformed : Bool) : Shape where
  fixed := simulationFrame ++ reformArgument reformed
  starts := ["output = "]

theorem simulationTail_fits (member : line ∈ plan.simulationTail) :
    (simulationTailShape plan.hasReform).Fits line := by
  have framed {entry : String} (among : entry ∈ simulationFrame) :
      (simulationTailShape plan.hasReform).Fits entry := .inl (List.mem_append_left _ among)
  simp only [simulationTail, List.append_assoc, List.mem_append, List.mem_cons, List.not_mem_nil,
    or_false] at member
  rcases member with (rfl | rfl) | argument | rfl | rfl | rfl | rfl | rfl
  · exact framed (by simp [simulationFrame])
  · exact framed (by simp [simulationFrame])
  · exact .inl (List.mem_append_right _ argument)
  · exact framed (by simp [simulationFrame])
  · exact framed (by simp [simulationFrame])
  · exact framed (by simp [simulationFrame])
  · exact .inr ⟨"output = ", List.mem_singleton_self _, by simp [Begins]⟩
  · exact framed (by simp [simulationFrame])

def simulationShape (reformed : Bool) : Shape where
  fixed := (simulationTailShape reformed).fixed
  starts := "situation = " :: (simulationTailShape reformed).starts

theorem simulationLines_fit {situation : Json} (member : line ∈ plan.simulationLines situation) :
    (simulationShape plan.hasReform).Fits line := by
  rw [simulationLines_eq] at member
  rcases List.mem_append.mp member with blank | rest
  · have allBlank : ["", ""] ⊆ simulationFrame := by simp [simulationFrame]
    exact .inl (List.mem_append_left _ (allBlank blank))
  · rcases List.mem_cons.mp rest with rfl | tail
    · exact .inr ⟨"situation = ", List.mem_cons_self, begins_append _ _⟩
    · rcases simulationTail_fits tail with fixed | ⟨start, among, begun⟩
      · exact .inl fixed
      · exact .inr ⟨start, List.mem_cons_of_mem _ among, begun⟩

theorem householdSimulation_fits {normaliser : Normaliser}
    (h : plan.householdSimulation normaliser = .ok lines) (member : line ∈ lines) :
    (simulationShape plan.hasReform).Fits line := by
  rw [householdSimulation_eq_ok] at h
  split at h
  case h_1 population =>
      subst h
      cases member
  case h_2 single =>
      obtain ⟨situation, _, rfl⟩ := h
      exact simulationLines_fit member

def comparisonShape : Shape where
  fixed := ["reformed = Microsimulation(reform=reform)",
    "difference_person = reformed_person - baseline_person"]
  starts := ["baseline = Microsimulation(", "baseline_person = ", "reformed_person = ", "    period="]

theorem personResult_begin {simulation : String} (member : line ∈ plan.personResult simulation) :
    Begins (simulation ++ "_person = ") line ∨ Begins "    period=" line := by
  simp only [personResult, List.mem_cons, List.not_mem_nil, or_false] at member
  rcases member with rfl | rfl
  · left
    simp [Begins]
  · right
    simp [Begins]

theorem comparison_fits (member : line ∈ plan.comparison) : comparisonShape.Fits line := by
  have starting {start : String} (among : start ∈ comparisonShape.starts) (begun : Begins start line) :
      comparisonShape.Fits line := .inr ⟨start, among, begun⟩
  unfold comparison at member
  cases scope : plan.request.scope with
  | household => simp [scope] at member
  | policy =>
      simp only [scope, List.mem_append, List.mem_cons, List.not_mem_nil, or_false] at member
      rcases member with (((rfl | fixed) | baseline) | reformed) | fixed
      · exact .inr ⟨"baseline = Microsimulation(", by decide, by simp [Begins]⟩
      · exact .inl (by simp [comparisonShape, fixed])
      · exact (personResult_begin baseline).elim (starting (by decide)) (starting (by decide))
      · exact (personResult_begin reformed).elim (starting (by decide)) (starting (by decide))
      · exact .inl (by simp [comparisonShape, fixed])

end SimulationScript.Plan
