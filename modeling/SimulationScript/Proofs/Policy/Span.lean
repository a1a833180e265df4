import Mathlib.Data.List.Perm.Basic
import SimulationScript.Proofs.Fallible
import SimulationScript.Proofs.Policy.Extreme

/-! # The span is the calendar extent of the updates

The single pass over the interval keys is two steps at once: reading every key, of which the first
refusal decides the error, and choosing among the endpoints read.
-/

namespace SimulationScript.Span

/-! ## Reading interval keys -/

/-- An interval key consists of two endpoints that spell days. -/
structure Reads (key : String) (start stop : Endpoint) : Prop where
  interval : Interval.ofKey key = .ok ⟨start.written, stop.written⟩
  startDay : Date.parse? start.written = some start.date
  stopDay : Date.parse? stop.written = some stop.date

/-- Why an interval key gives no endpoints: it does not split, or else its start is no date, or else
    its end is none. -/
inductive Refusal (key : String) : ScriptError → Prop where
  | unsplit : (∀ interval, Interval.ofKey key ≠ .ok interval) → Refusal key (.malformedInterval key)
  | start {interval : Interval} : Interval.ofKey key = .ok interval →
      Date.parse? interval.start = none → Refusal key (.invalidDate interval.start)
  | stop {interval : Interval} {day : Date} : Interval.ofKey key = .ok interval →
      Date.parse? interval.start = some day → Date.parse? interval.stop = none →
      Refusal key (.invalidDate interval.stop)

theorem ofKey_eq_error {key : String} {cause : ScriptError} (h : Interval.ofKey key = .error cause) :
    cause = .malformedInterval key := by
  unfold Interval.ofKey at h
  split at h
  · split at h
    · exact (Except.error.inj h).symm
    · cases h
  · exact (Except.error.inj h).symm

theorem endpointDate_of_some {endpoint : String} {day : Date}
    (h : Date.parse? endpoint = some day) : endpointDate endpoint = .ok day := by
  simp only [endpointDate, h]

theorem endpointDate_of_none {endpoint : String} (h : Date.parse? endpoint = none) :
    endpointDate endpoint = .error (.invalidDate endpoint) := by
  simp only [endpointDate, h]

theorem Reads.endpoints_eq {key : String} {start stop : Endpoint} (h : Reads key start stop) :
    endpoints key = .ok (start, stop) := by
  simp only [endpoints, h.interval, endpointDate_of_some h.startDay,
    endpointDate_of_some h.stopDay, bind, Except.bind, pure, Except.pure]

theorem Refusal.endpoints_eq {key : String} {cause : ScriptError} (h : Refusal key cause) :
    endpoints key = .error cause := by
  cases h with
  | unsplit noneFits =>
      cases split : Interval.ofKey key with
      | ok interval => exact absurd split (noneFits interval)
      | error cause =>
          obtain rfl := ofKey_eq_error split
          simp only [endpoints, split, bind, Except.bind]
  | start split noDay =>
      simp only [endpoints, split, endpointDate_of_none noDay, bind, Except.bind]
  | stop split day noDay =>
      simp only [endpoints, split, endpointDate_of_some day, endpointDate_of_none noDay, bind,
        Except.bind]

/-- Every interval key is read or refused. -/
theorem reads_or_refusal (key : String) :
    (∃ start stop, Reads key start stop) ∨ ∃ cause, Refusal key cause := by
  cases split : Interval.ofKey key with
  | error cause => exact .inr ⟨_, .unsplit (by simp [split])⟩
  | ok interval =>
      cases start : Date.parse? interval.start with
      | none => exact .inr ⟨_, .start split start⟩
      | some startDay =>
          cases stop : Date.parse? interval.stop with
          | none => exact .inr ⟨_, .stop split start stop⟩
          | some stopDay =>
              exact .inl ⟨⟨startDay, interval.start⟩, ⟨stopDay, interval.stop⟩, split, start, stop⟩

theorem endpoints_eq_ok {key : String} {ends : Endpoint × Endpoint} :
    endpoints key = .ok ends ↔ Reads key ends.1 ends.2 := by
  refine ⟨fun h => ?_, Reads.endpoints_eq⟩
  rcases reads_or_refusal key with ⟨start, stop, read⟩ | ⟨cause, refused⟩
  · obtain rfl := Except.ok.inj (read.endpoints_eq.symm.trans h)
    exact read
  · cases refused.endpoints_eq.symm.trans h

theorem endpoints_eq_error {key : String} {cause : ScriptError} :
    endpoints key = .error cause ↔ Refusal key cause := by
  refine ⟨fun h => ?_, Refusal.endpoints_eq⟩
  rcases reads_or_refusal key with ⟨start, stop, read⟩ | ⟨cause', refused⟩
  · cases read.endpoints_eq.symm.trans h
  · obtain rfl := Except.error.inj (refused.endpoints_eq.symm.trans h)
    exact refused

theorem isOk_endpoints {key : String} :
    (endpoints key).isOk ↔ ∃ start stop, Reads key start stop := by
  rw [Fallible.isOk_iff]
  constructor
  · intro made
    obtain ⟨ends, h⟩ := made
    exact ⟨ends.1, ends.2, endpoints_eq_ok.mp h⟩
  · intro readable
    obtain ⟨start, stop, read⟩ := readable
    exact ⟨_, read.endpoints_eq⟩

/-! ## The span of interval keys -/

/-- A pair of endpoints as they were written. -/
def written (ends : Endpoint × Endpoint) : Span :=
  ⟨ends.1.written, ends.2.written⟩

/-- Extending the extremes key by key is reading all keys and then choosing. -/
theorem foldlM_extend (keys : List String) (kept : Option (Endpoint × Endpoint)) :
    keys.foldlM extend kept = (keys.mapM endpoints).map (List.foldl takeIn kept) := by
  induction keys generalizing kept with
  | nil => rfl
  | cons key keys ih =>
      cases read : endpoints key with
      | error cause => simp [List.foldlM_cons, List.mapM_cons, extend, read, bind, Except.bind, Except.map]
      | ok ends =>
          have extended : extend kept key = .ok (takeIn kept ends) := by
            simp only [extend, read, takeIn, bind, Except.bind, pure, Except.pure]
          simp only [List.foldlM_cons, List.mapM_cons, read, extended, bind, Except.bind, ih]
          cases keys.mapM endpoints <;> rfl

theorem ofKeys_eq (keys : List String) :
    ofKeys keys = (keys.mapM endpoints).map fun all => (all.foldl takeIn none).map written := by
  simp only [ofKeys, foldlM_extend]
  cases keys.mapM endpoints <;> rfl

section Updates

variable {updates : List Update}

/-- The pairs of endpoints of a list of updates, in order. -/
abbrev Read (updates : List Update) (all : List (Endpoint × Endpoint)) : Prop :=
  List.Forall₂ (fun update ends => Reads update.interval ends.1 ends.2) updates all

theorem ofKeys_updates (updates : List Update) :
    ofKeys (updates.map (·.interval)) =
      (updates.mapM fun update => endpoints update.interval).map
        fun all => (all.foldl takeIn none).map written := by
  rw [ofKeys_eq, List.mapM_map]
  rfl

theorem mapM_endpoints_eq_ok {all : List (Endpoint × Endpoint)} :
    updates.mapM (fun update => endpoints update.interval) = .ok all ↔ Read updates all := by
  simp only [Fallible.mapM_eq_ok, endpoints_eq_ok, Read]

/-- The span of updates that can all be read. -/
theorem Read.ofKeys_eq {all : List (Endpoint × Endpoint)} (h : Read updates all) :
    ofKeys (updates.map (·.interval)) = .ok ((all.foldl takeIn none).map written) := by
  rw [ofKeys_updates, mapM_endpoints_eq_ok.mpr h, Except.map]

theorem read_of_ofKeys {span : Option Span} (h : ofKeys (updates.map (·.interval)) = .ok span) :
    ∃ all, Read updates all := by
  rw [ofKeys_updates] at h
  cases all : updates.mapM fun update => endpoints update.interval with
  | error cause => rw [all] at h; cases h
  | ok ends => exact ⟨ends, mapM_endpoints_eq_ok.mp all⟩

theorem ofKeys_eq_error {cause : ScriptError} :
    ofKeys (updates.map (·.interval)) = .error cause ↔
      ∃ front update back, updates = front ++ update :: back ∧
        (∀ passed ∈ front, ∃ start stop, Reads passed.interval start stop) ∧
        Refusal update.interval cause := by
  simp only [← isOk_endpoints, ← endpoints_eq_error, ← Fallible.mapM_eq_error, ofKeys_updates]
  cases updates.mapM fun update => endpoints update.interval <;> simp [Except.map]

theorem ofKeys_eq_none : ofKeys (updates.map (·.interval)) = .ok none ↔ updates = [] := by
  constructor
  · intro h
    obtain ⟨all, read⟩ := read_of_ofKeys h
    have extremes := extremes_foldl all
    rw [read.ofKeys_eq, Except.ok.injEq, Option.map_eq_none_iff] at h
    rw [h] at extremes
    obtain rfl : all = [] := List.map_eq_nil_iff.mp extremes.start
    exact List.forall₂_nil_right_iff.mp read
  · intro noneThere
    subst noneThere
    rfl

theorem ofKeys_eq_some {span : Span} :
    ofKeys (updates.map (·.interval)) = .ok (some span) ↔
      ∃ all, Read updates all ∧ ∃ start stop,
        FirstExtreme (· < ·) start (all.map (·.1)) ∧ FirstExtreme (· > ·) stop (all.map (·.2)) ∧
        span = ⟨start.written, stop.written⟩ := by
  constructor
  · intro h
    obtain ⟨all, read⟩ := read_of_ofKeys h
    have extremes := extremes_foldl all
    rw [read.ofKeys_eq, Except.ok.injEq, Option.map_eq_some_iff] at h
    obtain ⟨⟨start, stop⟩, chosen, rfl⟩ := h
    rw [chosen] at extremes
    exact ⟨all, read, start, stop, extremes.start, extremes.stop, rfl⟩
  · intro chosen
    obtain ⟨all, read, start, stop, firstStart, lastStop, rfl⟩ := chosen
    have extremes : Extremes (some (start, stop)) all := ⟨firstStart, lastStop⟩
    rw [read.ofKeys_eq, (extremes_foldl all).unique extremes]
    rfl

theorem Read.startDay {all : List (Endpoint × Endpoint)} (h : Read updates all) :
    ∀ start ∈ all.map (·.1), Date.parse? start.written = some start.date := by
  induction h with
  | nil => simp
  | cons read _ ih => simpa [read.startDay] using ih

theorem Read.stopDay {all : List (Endpoint × Endpoint)} (h : Read updates all) :
    ∀ stop ∈ all.map (·.2), Date.parse? stop.written = some stop.date := by
  induction h with
  | nil => simp
  | cons read _ ih => simpa [read.stopDay] using ih

/-- The ends of a span are ends of updates. -/
theorem exists_updates_of_span {span : Span}
    (h : ofKeys (updates.map (·.interval)) = .ok (some span)) :
    (∃ update ∈ updates, ∃ start stop, Reads update.interval start stop ∧
      span.earliestStart = start.written) ∧
    ∃ update ∈ updates, ∃ start stop, Reads update.interval start stop ∧
      span.latestEnd = stop.written := by
  obtain ⟨all, read, start, stop, firstStart, lastStop, rfl⟩ := ofKeys_eq_some.mp h
  have partner {ends : Endpoint × Endpoint} (member : ends ∈ all) :
      ∃ update ∈ updates, Reads update.interval ends.1 ends.2 :=
    Fallible.exists_partner read.flip member
  obtain ⟨ends, hends, rfl⟩ := List.mem_map.mp firstStart.mem
  obtain ⟨ends', hends', rfl⟩ := List.mem_map.mp lastStop.mem
  obtain ⟨update, hupdate, reads⟩ := partner hends
  obtain ⟨update', hupdate', reads'⟩ := partner hends'
  exact ⟨⟨update, hupdate, _, _, reads, rfl⟩, ⟨update', hupdate', _, _, reads', rfl⟩⟩

/-- Both ends of a span are days, and every update starts and ends between them. -/
def Covers (span : Span) (updates : List Update) : Prop :=
  ∃ first last, Date.parse? span.earliestStart = some first ∧
    Date.parse? span.latestEnd = some last ∧
    ∀ update ∈ updates, ∃ start stop, Reads update.interval start stop ∧
      ¬ start.date < first ∧ ¬ last < stop.date

/-- The days that a span names. -/
def days (span : Span) : Option Date × Option Date :=
  (Date.parse? span.earliestStart, Date.parse? span.latestEnd)

theorem Read.perm {permuted : List Update} {all : List (Endpoint × Endpoint)} (h : Read updates all)
    (same : permuted.Perm updates) : ∃ all', Read permuted all' ∧ all'.Perm all :=
  List.perm_comp_forall₂ same h

/-- The extremes of pairs in another order are on the same days. -/
theorem Read.days_eq {updates' : List Update} {all all' : List (Endpoint × Endpoint)}
    (h : Read updates all) (h' : Read updates' all') (same : all'.Perm all) :
    ((all'.foldl takeIn none).map written).map days =
      ((all.foldl takeIn none).map written).map days := by
  obtain ⟨start, stop⟩ := extremes_foldl all
  obtain ⟨start', stop'⟩ := extremes_foldl all'
  cases kept : all.foldl takeIn none with
  | none =>
      rw [kept] at start
      obtain rfl : all = [] := List.map_eq_nil_iff.mp start
      rw [same.eq_nil]
      rfl
  | some ends =>
      cases kept' : all'.foldl takeIn none with
      | none =>
          rw [kept'] at start'
          obtain rfl : all' = [] := List.map_eq_nil_iff.mp start'
          rw [same.symm.eq_nil] at kept
          cases kept
      | some ends' =>
          rw [kept] at start stop
          rw [kept'] at start' stop'
          have sameStart := FirstExtreme.same_day start' start (same.map _)
          have sameStop := FirstExtreme.same_day stop' stop (same.map _)
          simp only [Option.map_some, days, written, h.startDay _ start.mem, h.stopDay _ stop.mem,
            h'.startDay _ start'.mem, h'.stopDay _ stop'.mem, sameStart, sameStop]

/-- The days of a span depend on no order of the updates, and neither does whether there is one. -/
theorem days_ofKeys_perm {permuted : List Update} (same : permuted.Perm updates) :
    (ofKeys (permuted.map (·.interval))).toOption.map (Option.map days) =
      (ofKeys (updates.map (·.interval))).toOption.map (Option.map days) := by
  by_cases readable : ∃ all, Read updates all
  · obtain ⟨all, read⟩ := readable
    obtain ⟨all', read', sameEnds⟩ := read.perm same
    rw [read.ofKeys_eq, read'.ofKeys_eq]
    exact congrArg some (read.days_eq read' sameEnds)
  · have unreadable : ¬ ∃ all, Read permuted all := by
      intro found
      obtain ⟨all, read⟩ := found
      obtain ⟨all', read', _⟩ := read.perm same.symm
      exact readable ⟨all', read'⟩
    have fails : ∀ {list : List Update}, (¬ ∃ all, Read list all) →
        (ofKeys (list.map (·.interval))).toOption = none := by
      intro list noneRead
      cases h : ofKeys (list.map (·.interval)) with
      | error cause => rfl
      | ok span => exact absurd (read_of_ofKeys h) noneRead
    rw [fails readable, fails unreadable]

end Updates

/-- The span of a policy is the calendar extent of its updates. There is none exactly when there are
    no updates; the first update whose key does not split, or else whose start, or else whose end is
    no date decides the error; and otherwise the span holds, as written, the first start on the
    first of all days that start an update and the first end on the last of all days that end one.
    The order of the updates changes neither whether there is a span nor the days it names. -/
theorem span_is_calendar_extent (policy : Policy) :
    (policy.span = .ok none ↔ policy.reform.updates = []) ∧
    (∀ cause, policy.span = .error cause ↔
      ∃ front update back, policy.reform.updates = front ++ update :: back ∧
        (∀ passed ∈ front, ∃ start stop, Reads passed.interval start stop) ∧
        Refusal update.interval cause) ∧
    (∀ span, policy.span = .ok (some span) ↔
      ∃ all, Read policy.reform.updates all ∧ ∃ start stop,
        FirstExtreme (· < ·) start (all.map (·.1)) ∧ FirstExtreme (· > ·) stop (all.map (·.2)) ∧
        span = ⟨start.written, stop.written⟩) ∧
    ∀ permuted : List Update, permuted.Perm policy.reform.updates →
      (ofKeys (permuted.map (·.interval))).toOption.map (Option.map days) =
        policy.span.toOption.map (Option.map days) :=
  ⟨ofKeys_eq_none, fun _ => ofKeys_eq_error, fun _ => ofKeys_eq_some,
    fun _ same => days_ofKeys_perm same⟩

/-- Two updates whose dates sort differently as text and by the calendar. -/
def mixedFormats : Policy :=
  ⟨(Reform.empty.withUpdate ⟨"gov.a", "2020-01-01.2020-12-31", .flag true⟩).withUpdate
    ⟨"gov.b", "12/31/2019.01/15/2021", .flag true⟩⟩

theorem span_of_swapped_updates :
    mixedFormats.span = .ok (some ⟨"12/31/2019", "01/15/2021"⟩) ∧
    mixedFormats.reform.updates.reverse.Perm mixedFormats.reform.updates ∧
    (ofKeys (mixedFormats.reform.updates.reverse.map (·.interval))).toOption.map (Option.map days) =
      mixedFormats.span.toOption.map (Option.map days) :=
  ⟨rfl, List.reverse_perm _,
    (span_is_calendar_extent mixedFormats).2.2.2 _ (List.reverse_perm _)⟩

end SimulationScript.Span
