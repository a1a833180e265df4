import SimulationScript.Proofs.Calendar.Spelling
import SimulationScript.Proofs.Policy.Span
import SimulationScript.Proofs.Text.Mark

/-! # Keys of intervals

A key is read back as the two endpoints it was joined from unless the start has a point, which ends the
start too early.
-/

namespace SimulationScript.Interval

open Text

/-- The key of an interval: its endpoints with a point between them. -/
def key (interval : Interval) : String :=
  interval.start ++ "." ++ interval.stop

theorem toList_key (interval : Interval) :
    interval.key.toList = interval.start.toList ++ '.' :: interval.stop.toList := by
  simp [key]

theorem splitPoint?_append {front : List Char} (noPoint : '.' ∉ front) (back : List Char) :
    splitPoint? (front ++ '.' :: back) = some (front, back) := by
  simp only [splitPoint?, dropWhile_ne_append noPoint, takeWhile_ne_append noPoint]

/-- A text is split at its first point. -/
theorem ofKey_of_split {text : String} {front back : List Char}
    (split : text.toList = front ++ '.' :: back) (noPoint : '.' ∉ front) (hasStart : front ≠ [])
    (hasStop : back ≠ []) : ofKey text = .ok ⟨String.ofList front, String.ofList back⟩ := by
  simp only [ofKey, split, splitPoint?_append noPoint]
  simp [hasStart, hasStop]

theorem append_of_splitPoint? {cs front back : List Char} (h : splitPoint? cs = some (front, back)) :
    cs = front ++ '.' :: back := by
  unfold splitPoint? at h
  split at h
  case h_1 c rest after =>
      obtain rfl : c = '.' := by
        have first := List.head?_dropWhile_not (· != '.') cs
        simpa [after] using first
      cases h
      rw [← after]
      exact List.takeWhile_append_dropWhile.symm
  case h_2 noneThere => cases h

/-- A key that is read is the key of the interval that is read. -/
theorem key_of_ofKey {text : String} {interval : Interval} (h : ofKey text = .ok interval) :
    interval.key = text := by
  unfold ofKey at h
  split at h
  case h_1 front back split =>
      split at h
      · cases h
      · cases h
        exact String.toList_injective (by simp [toList_key, append_of_splitPoint? split])
  case h_2 unsplit => cases h

/-- The two endpoints that a text is split into, the first of which ends before the first point. -/
structure Splits (text start stop : String) : Prop where
  joined : text = start ++ "." ++ stop
  noPoint : '.' ∉ start.toList
  hasStart : start ≠ ""
  hasStop : stop ≠ ""

theorem splits_of_ofKey {text : String} {interval : Interval} (h : ofKey text = .ok interval) :
    Splits text interval.start interval.stop := by
  have joined : interval.key = text := key_of_ofKey h
  unfold ofKey at h
  split at h
  case h_1 front back split =>
      split at h
      case isTrue => cases h
      case isFalse both =>
          cases h
          simp only [Bool.or_eq_true, List.isEmpty_iff, not_or] at both
          have noPoint : '.' ∉ front := by
            unfold splitPoint? at split
            split at split
            · cases split
              exact fun member => by simpa using List.mem_takeWhile_imp member
            · cases split
          exact ⟨joined.symm, by simpa using noPoint, by simp [both.1], by simp [both.2]⟩
  case h_2 unsplit => cases h

theorem toList_ne_nil_of_date {endpoint : String} {date : Date} (h : Date.parse? endpoint = some date) :
    endpoint.toList ≠ [] := by
  intro empty
  rw [Date.parse?, empty] at h
  exact absurd h (by simp [show Date.ofTrimmed? (trim []) = none by decide])

/-- Reading the key of an interval gives the interval, and a policy whose only update has the key is
    active over the interval. -/
structure ReadsBack (interval : Interval) : Prop where
  split : ofKey interval.key = .ok interval
  span : ∀ (policy : Policy) (update : Update), policy.reform.updates = [update] →
    update.interval = interval.key → policy.span = .ok (some ⟨interval.start, interval.stop⟩)

/-- The key of an interval is split at a point in the start. What stands before the point is no date,
    so that a policy whose only update has the key has no span. -/
structure SplitsStart (interval : Interval) (before after : String) : Prop where
  start : interval.start = before ++ "." ++ after
  split : ofKey interval.key = .ok ⟨before, after ++ "." ++ interval.stop⟩
  refused : ∀ (policy : Policy) (update : Update), policy.reform.updates = [update] →
    update.interval = interval.key → policy.span = .error (.invalidDate before)

theorem span_of_reads {key : String} {start stop : Span.Endpoint} (read : Span.Reads key start stop)
    {policy : Policy} {update : Update} (only : policy.reform.updates = [update])
    (keyed : update.interval = key) : policy.span = .ok (some ⟨start.written, stop.written⟩) := by
  subst keyed
  have all : Span.Read [update] [(start, stop)] := .cons read .nil
  rw [Policy.span, only, all.ofKeys_eq]
  rfl

theorem span_of_refusal {key : String} {cause : ScriptError} (refused : Span.Refusal key cause)
    {policy : Policy} {update : Update} (only : policy.reform.updates = [update])
    (keyed : update.interval = key) : policy.span = .error cause := by
  subst keyed
  rw [Policy.span, only]
  exact Span.ofKeys_eq_error.mpr ⟨[], update, [], rfl, by simp, refused⟩

theorem SplitsStart.not_readsBack {interval : Interval} {before after : String}
    (splits : SplitsStart interval before after) : ¬ ReadsBack interval := by
  intro back
  have same := Except.ok.inj (splits.split.symm.trans back.split)
  have lengths : before.length = (before ++ "." ++ after).length := by
    rw [← splits.start, ← same]
  have point : ".".length = 1 := rfl
  simp only [String.length_append, point] at lengths
  omega

/-- The key of two dates is read back exactly when the start has no point. A start with a point is a
    timestamp, and its key is split before the fraction. -/
theorem key_of_dates_reads_back {start stop : String} {first last : Date}
    (hstart : Date.parse? start = some first) (hstop : Date.parse? stop = some last) :
    (ReadsBack ⟨start, stop⟩ ↔ '.' ∉ start.toList) ∧
    ('.' ∈ start.toList → (Date.timestamp? (trim start.toList)).isSome ∧
      ∃ before after, SplitsStart ⟨start, stop⟩ before after) := by
  have hasStop : stop.toList ≠ [] := toList_ne_nil_of_date hstop
  have whole : '.' ∉ start.toList → ReadsBack ⟨start, stop⟩ := by
    intro noPoint
    have split : ofKey (key ⟨start, stop⟩) = .ok ⟨start, stop⟩ := by
      simpa using ofKey_of_split (toList_key ⟨start, stop⟩) noPoint (toList_ne_nil_of_date hstart)
        hasStop
    have read : Span.Reads (key ⟨start, stop⟩) ⟨first, start⟩ ⟨last, stop⟩ := ⟨split, hstart, hstop⟩
    exact ⟨split, fun _ _ only keyed => span_of_reads read only keyed⟩
  have broken : '.' ∈ start.toList → (Date.timestamp? (trim start.toList)).isSome ∧
      ∃ before after, SplitsStart ⟨start, stop⟩ before after := by
    intro point
    obtain ⟨timestamp, before, after, atPoint, noPoint, hasStart, noDate⟩ :=
      Date.parse?_before_point hstart point
    have joined : (key ⟨start, stop⟩).toList = before ++ '.' :: (after ++ '.' :: stop.toList) := by
      rw [toList_key, atPoint]
      simp
    have split := ofKey_of_split joined noPoint hasStart (by simp)
    refine ⟨timestamp, String.ofList before, String.ofList after, ?_, ?_, ?_⟩
    · exact String.toList_injective (by simp [atPoint])
    · rw [split]
      congr 2
      exact String.toList_injective (by simp)
    · exact fun _ _ only keyed => span_of_refusal (.start split noDate) only keyed
  refine ⟨⟨fun back point => ?_, whole⟩, broken⟩
  obtain ⟨_, _, _, splits⟩ := broken point
  exact splits.not_readsBack back

/-- Two timestamps, of which the second has a fraction. -/
def timestamps : Interval := ⟨"2023-03-04T10:00:00Z", "2023-12-31t08:00:00.25+01:00"⟩

theorem timestamps_read_back :
    (∃ first, Date.parse? timestamps.start = some first) ∧
    (∃ last, Date.parse? timestamps.stop = some last) ∧ ReadsBack timestamps := by
  obtain ⟨first, hstart⟩ := Option.isSome_iff_exists.mp
    (show (Date.parse? timestamps.start).isSome by decide)
  obtain ⟨last, hstop⟩ := Option.isSome_iff_exists.mp
    (show (Date.parse? timestamps.stop).isSome by decide)
  exact ⟨⟨first, hstart⟩, ⟨last, hstop⟩, (key_of_dates_reads_back hstart hstop).1.mpr (by decide)⟩

/-- A start with a fraction. -/
def fractionalStart : Interval := ⟨"2023-03-04T10:00:00.5Z", "2023-12-31"⟩

theorem fractionalStart_is_split :
    (Date.parse? fractionalStart.start).isSome ∧ (Date.parse? fractionalStart.stop).isSome ∧
    ofKey fractionalStart.key = .ok ⟨"2023-03-04T10:00:00", "5Z.2023-12-31"⟩ ∧
    ¬ ReadsBack fractionalStart := by
  have split : ofKey fractionalStart.key = .ok ⟨"2023-03-04T10:00:00", "5Z.2023-12-31"⟩ := by decide
  refine ⟨by decide, by decide, split, ?_⟩
  intro back
  exact absurd (back.split.symm.trans split) (by decide)

end SimulationScript.Interval
