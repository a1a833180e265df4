import Mathlib.Data.Finset.Card
import SimulationScript.Policy.Reform
import SimulationScript.Proofs.OrderedMap

/-! # Reforms that are built call by call

A reform may be built by setting one update after the other. It then lists every parameter and
interval that was set once, in the order in which they were first set, with the value set last.
-/

namespace SimulationScript

open Entries

/-! ## Calls -/

namespace Update

variable {calls : List Update} {update call : Update}

/-- What an update gives a value: a parameter over an interval. -/
def place (update : Update) : String × String :=
  (update.parameter, update.interval)

/-- The parameters of a list of calls, in the order of their first calls. -/
def calledParameters (calls : List Update) : List String :=
  (calls.map (·.parameter)).eraseDups

/-- The intervals of the calls for one parameter, in the order of their first calls. -/
def calledIntervals (calls : List Update) (parameter : String) : List String :=
  ((calls.filter (·.parameter = parameter)).map (·.interval)).eraseDups

/-- No later call is for the same parameter and interval. -/
def IsLast (calls : List Update) (update : Update) : Prop :=
  ∃ before after, calls = before ++ update :: after ∧ ∀ later ∈ after, later.place ≠ update.place

theorem isLast_concat (calls : List Update) (update : Update) : IsLast (calls ++ [update]) update :=
  ⟨calls, [], rfl, List.forall_mem_nil _⟩

theorem IsLast.concat (last : IsLast calls update) (other : call.place ≠ update.place) :
    IsLast (calls ++ [call]) update := by
  obtain ⟨before, after, rfl, others⟩ := last
  refine ⟨before, after ++ [call], by simp, ?_⟩
  simpa [or_imp, forall_and] using ⟨others, other⟩

theorem calledParameters_concat (calls : List Update) (call : Update) :
    calledParameters (calls ++ [call]) =
      (calls.map (·.parameter) ++ [call.parameter]).eraseDups := by
  rw [calledParameters, List.map_append, List.map_singleton]

theorem calledIntervals_concat (calls : List Update) (call : Update) :
    calledIntervals (calls ++ [call]) call.parameter =
      ((calls.filter (·.parameter = call.parameter)).map (·.interval) ++ [call.interval]).eraseDups := by
  simp [calledIntervals]

theorem calledIntervals_concat_of_ne {parameter : String} (other : call.parameter ≠ parameter) :
    calledIntervals (calls ++ [call]) parameter = calledIntervals calls parameter := by
  simp [calledIntervals, other]

theorem mem_calledIntervals {parameter interval : String} :
    interval ∈ calledIntervals calls parameter ↔ (parameter, interval) ∈ calls.map place := by
  simp [calledIntervals, place, and_assoc]

theorem mem_calledParameters {parameter interval : String}
    (called : (parameter, interval) ∈ calls.map place) : parameter ∈ calledParameters calls := by
  obtain ⟨call, there, same⟩ := List.mem_map.mp called
  rw [calledParameters, List.mem_eraseDups]
  exact List.mem_map.mpr ⟨call, there, congrArg Prod.fst same⟩

end Update

open Update

variable {calls : List Update} {call : Update} {parameter : String}

/-! ## One call -/

/-- A schedule holds the calls for a parameter. -/
structure Schedule.Records (calls : List Update) (parameter : String) (schedule : Schedule) : Prop where
  intervals : keys schedule.entries = calledIntervals calls parameter
  last : ∀ interval value, (interval, value) ∈ schedule.entries →
    IsLast calls ⟨parameter, interval, value⟩

/-- A reform holds a list of calls. -/
structure Reform.Records (calls : List Update) (reform : Reform) : Prop where
  parameters : keys reform.data.entries = calledParameters calls
  schedules : ∀ parameter schedule, (parameter, schedule) ∈ reform.data.entries →
    schedule.Records calls parameter

namespace Schedule.Records

variable {schedule : Schedule}

theorem set (records : schedule.Records calls call.parameter) :
    Schedule.Records (calls ++ [call]) call.parameter (schedule.set call.interval call.value) where
  intervals := by
    rw [calledIntervals_concat]
    exact keys_set_of_eraseDups records.intervals
  last interval value member := by
    rcases other_of_mem_set schedule.distinct member with same | ⟨other, before⟩
    · cases same
      exact isLast_concat calls call
    · refine (records.last interval value before).concat ?_
      exact fun same => other (congrArg Prod.snd same).symm

theorem concat (records : schedule.Records calls parameter) (other : call.parameter ≠ parameter) :
    schedule.Records (calls ++ [call]) parameter where
  intervals := by rw [calledIntervals_concat_of_ne other, records.intervals]
  last interval value member := by
    refine (records.last interval value member).concat ?_
    exact fun same => other (congrArg Prod.fst same)

end Schedule.Records

namespace Reform

variable {reform : Reform}

/-- A parameter that was not called for has no intervals so far. -/
theorem Records.schedule (records : reform.Records calls) (parameter : String) :
    Schedule.Records calls parameter ((reform.data.get? parameter).getD .empty) := by
  cases found : reform.data.get? parameter with
  | some schedule => exact records.schedules parameter schedule (OrderedMap.mem_of_get? found)
  | none =>
      have uncalled : parameter ∉ calls.map (·.parameter) := by
        rw [← List.mem_eraseDups, ← calledParameters, ← records.parameters]
        exact OrderedMap.not_mem_keys_of_get? found
      constructor
      case intervals =>
          have noCalls : calls.filter (·.parameter = parameter) = [] := by simpa using uncalled
          rw [calledIntervals, noCalls]
          rfl
      case last => exact fun _ _ member => absurd member List.not_mem_nil

theorem Records.withUpdate (records : reform.Records calls) (call : Update) :
    (reform.withUpdate call).Records (calls ++ [call]) where
  parameters := by
    rw [calledParameters_concat]
    exact keys_set_of_eraseDups records.parameters
  schedules parameter schedule member := by
    rcases other_of_mem_set reform.data.distinct member with same | ⟨other, before⟩
    · -- The schedule that is put back holds the new call; all others are those from before.
      cases same
      exact (records.schedule call.parameter).set
    · exact (records.schedules parameter schedule before).concat (Ne.symm other)

/-- The reform of a list of calls, which begins empty. -/
def ofCalls (calls : List Update) : Reform :=
  calls.foldl withUpdate .empty

theorem records_ofCalls (calls : List Update) : (ofCalls calls).Records calls := by
  -- From the end, since a call changes what all calls before it have built.
  induction calls using List.reverseRecOn with
  | nil => exact ⟨rfl, fun _ _ member => absurd member List.not_mem_nil⟩
  | append_singleton calls call ih =>
      rw [ofCalls, List.foldl_append]
      exact ih.withUpdate call

/-! ## All calls -/

theorem places_scheduleUpdates (parameter : String) (schedule : Schedule) :
    (scheduleUpdates parameter schedule).map place =
      (keys schedule.entries).map (parameter, ·) := by
  simp [scheduleUpdates, keys, place]

/-- No reform lists a parameter and interval twice. -/
theorem nodup_places (reform : Reform) : (reform.updates.map place).Nodup := by
  rw [updates, List.map_flatMap, List.nodup_flatMap]
  simp only [places_scheduleUpdates]
  constructor
  · intro entry _
    exact entry.2.distinct.map fun _ _ same => (Prod.mk.inj same).2
  · have apart : reform.data.entries.Pairwise fun entry entry' => entry.1 ≠ entry'.1 :=
      List.pairwise_map.mp reform.data.distinct
    refine apart.imp fun other => ?_
    simp [List.disjoint_left, Ne.symm other]

theorem Records.places (records : reform.Records calls) :
    reform.updates.map place =
      (calledParameters calls).flatMap fun parameter =>
        (calledIntervals calls parameter).map (parameter, ·) := by
  rw [updates, List.map_flatMap, ← records.parameters, keys, List.flatMap_map]
  refine List.flatMap_congr fun entry member => ?_
  rw [places_scheduleUpdates, (records.schedules _ _ member).intervals]

theorem Records.mem_places (records : reform.Records calls) (pair : String × String) :
    pair ∈ reform.updates.map place ↔ pair ∈ calls.map place := by
  obtain ⟨parameter, interval⟩ := pair
  rw [records.places, List.mem_flatMap]
  constructor
  · rintro ⟨_, _, inside⟩
    obtain ⟨_, called, same⟩ := List.mem_map.mp inside
    cases same
    exact mem_calledIntervals.mp called
  · intro called
    exact ⟨parameter, mem_calledParameters called,
      List.mem_map.mpr ⟨interval, mem_calledIntervals.mpr called, rfl⟩⟩

theorem mem_updates_iff {update : Update} :
    update ∈ reform.updates ↔
      ∃ schedule, (update.parameter, schedule) ∈ reform.data.entries ∧
        (update.interval, update.value) ∈ schedule.entries := by
  constructor
  · intro member
    obtain ⟨⟨parameter, schedule⟩, named, inside⟩ := List.mem_flatMap.mp member
    obtain ⟨⟨interval, value⟩, timed, rfl⟩ := List.mem_map.mp inside
    exact ⟨schedule, named, timed⟩
  · rintro ⟨schedule, named, timed⟩
    exact List.mem_flatMap.mpr ⟨_, named, List.mem_map.mpr ⟨_, timed, rfl⟩⟩

theorem Records.parameterCount (records : reform.Records calls) :
    reform.parameterCount = (calls.map (·.parameter)).toFinset.card := by
  have same : (keys reform.data.entries).toFinset = (calls.map (·.parameter)).toFinset := by
    ext parameter
    rw [List.mem_toFinset, List.mem_toFinset, records.parameters, calledParameters, List.mem_eraseDups]
  rw [← same, List.toFinset_card_of_nodup reform.data.distinct, keys, List.length_map]
  rfl

/-- What a reform makes of a list of calls. -/
structure Gathers (reform : Reform) (calls : List Update) : Prop where
  /-- Each parameter and interval that is called for is listed once, and no other. -/
  once : ∀ pair, (reform.updates.map place).count pair = if pair ∈ calls.map place then 1 else 0
  /-- Parameters stand in the order of their first calls, and so do the intervals of each. -/
  order : reform.updates.map place =
    (calledParameters calls).flatMap fun parameter =>
      (calledIntervals calls parameter).map (parameter, ·)
  last : ∀ update ∈ reform.updates, IsLast calls update
  parameterCount : reform.parameterCount = (calls.map (·.parameter)).toFinset.card

/-- A reform that is built by calls lists each parameter and interval once, in the order of their first
    calls, with the value of the last one. -/
theorem built_reform_gathers_calls (calls : List Update) : (ofCalls calls).Gathers calls := by
  have records := records_ofCalls calls
  constructor
  case once =>
      intro pair
      rw [(nodup_places _).count]
      simp only [records.mem_places]
  case order => exact records.places
  case last =>
      intro update member
      obtain ⟨schedule, named, timed⟩ := mem_updates_iff.mp member
      exact (records.schedules _ schedule named).last _ _ timed
  case parameterCount => exact records.parameterCount

example :
    (ofCalls [⟨"gov.z", "2025.2026", .flag true⟩, ⟨"gov.a", "2024.2025", .flag true⟩,
      ⟨"gov.z", "2024.2025", .text "1"⟩, ⟨"gov.z", "2025.2026", .flag false⟩]).updates =
      [⟨"gov.z", "2025.2026", .flag false⟩, ⟨"gov.z", "2024.2025", .text "1"⟩,
        ⟨"gov.a", "2024.2025", .flag true⟩] := by decide

end Reform

end SimulationScript
