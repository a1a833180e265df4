import Mathlib.Data.List.Nodup
import SimulationScript.OrderedMap

/-! # Where a set entry stands

Setting a name keeps everything before and after its first entry, and adds an entry at the end when
there was none.
-/

namespace SimulationScript.Entries

variable {α : Type} {key : String} {value : α} {entries : List (String × α)}

theorem set_of_not_mem (absent : key ∉ keys entries) :
    set key value entries = entries ++ [(key, value)] := by
  induction entries with
  | nil => rfl
  | cons entry rest ih =>
      obtain ⟨name, old⟩ := entry
      simp only [keys, List.map_cons, List.mem_cons, not_or] at absent
      obtain ⟨other, absent⟩ := absent
      rw [set, if_neg (Ne.symm other), ih absent, List.cons_append]

theorem mem_of_mem_set {entry : String × α} (member : entry ∈ set key value entries) :
    entry = (key, value) ∨ entry ∈ entries := by
  induction entries with
  | nil => exact .inl (List.mem_singleton.mp member)
  | cons first rest ih =>
      obtain ⟨name, old⟩ := first
      rw [set] at member
      split at member
      · rename_i same
        subst same
        exact (List.mem_cons.mp member).imp id (List.mem_cons_of_mem _)
      · rcases List.mem_cons.mp member with rfl | later
        · exact .inr List.mem_cons_self
        · exact (ih later).imp id (List.mem_cons_of_mem _)

theorem set_append {front back : List (String × α)} {old : α} (absent : key ∉ keys front) :
    set key value (front ++ (key, old) :: back) = front ++ (key, value) :: back := by
  induction front with
  | nil => rw [List.nil_append, List.nil_append, set, if_pos rfl]
  | cons entry front ih =>
      obtain ⟨name, first⟩ := entry
      simp only [keys, List.map_cons, List.mem_cons, not_or] at absent
      obtain ⟨other, absent⟩ := absent
      rw [List.cons_append, set, if_neg (Ne.symm other), ih absent, List.cons_append]

theorem not_mem_keys_of_distinct {front back : List (String × α)}
    (distinct : Distinct (front ++ (key, value) :: back)) : key ∉ keys front := by
  intro present
  rw [Distinct, keys, List.map_append, List.map_cons] at distinct
  exact (List.nodup_append.mp distinct).2.2 key present key List.mem_cons_self rfl

theorem foldl_set_of_distinct {seen : List (String × α)} (distinct : Distinct (seen ++ entries)) :
    entries.foldl (fun seen entry => set entry.1 entry.2 seen) seen = seen ++ entries := by
  induction entries generalizing seen with
  | nil => rw [List.foldl_nil, List.append_nil]
  | cons entry rest ih =>
      obtain ⟨name, value⟩ := entry
      rw [List.foldl_cons, set_of_not_mem (not_mem_keys_of_distinct distinct), ih (by simpa using distinct),
        List.append_assoc, List.singleton_append]

/-- Entries of which no two have one name stay as they stand. -/
theorem collect_of_distinct (distinct : Distinct entries) : collect entries = entries :=
  foldl_set_of_distinct distinct

/-- The first entry of a name that is present. -/
theorem exists_first (present : key ∈ keys entries) :
    ∃ front old back, entries = front ++ (key, old) :: back ∧ key ∉ keys front := by
  induction entries with
  | nil => simp [keys] at present
  | cons entry rest ih =>
      obtain ⟨name, old⟩ := entry
      by_cases same : name = key
      · subst same
        exact ⟨[], old, rest, rfl, by simp [keys]⟩
      · have later : key ∈ keys rest := by simpa [keys, Ne.symm same] using present
        obtain ⟨front, found, back, rfl, absent⟩ := ih later
        refine ⟨(name, old) :: front, found, back, rfl, ?_⟩
        simpa [keys, Ne.symm same] using absent

theorem keys_set :
    keys (set key value entries) =
      if key ∈ keys entries then keys entries else keys entries ++ [key] := by
  split
  case isTrue present =>
      obtain ⟨front, old, back, rfl, absent⟩ := exists_first present
      rw [set_append absent]
      simp [keys]
  case isFalse absent =>
      rw [set_of_not_mem absent]
      simp [keys]

/-- One more name in the order in which names first come. -/
theorem eraseDups_concat (names : List String) (name : String) :
    (names ++ [name]).eraseDups =
      if name ∈ names then names.eraseDups else names.eraseDups ++ [name] := by
  rw [List.eraseDups_append]
  split
  case isTrue present => simp [List.removeAll, present]
  case isFalse absent => simp [List.removeAll, absent, List.eraseDups_cons]

/-- The names of entries that are set one after the other stand in the order in which they first come. -/
theorem keys_set_of_eraseDups {names : List String} (first : keys entries = names.eraseDups) :
    keys (set key value entries) = (names ++ [key]).eraseDups := by
  rw [keys_set, eraseDups_concat, first]
  simp only [List.mem_eraseDups]

theorem mem_set (key : String) (value : α) (entries : List (String × α)) :
    (key, value) ∈ set key value entries := by
  by_cases present : key ∈ keys entries
  · obtain ⟨front, old, back, rfl, absent⟩ := exists_first present
    rw [set_append absent]
    simp
  · rw [set_of_not_mem present]
    simp

/-- A name has one value after it is set: the entries of other names are those from before. -/
theorem other_of_mem_set {entry : String × α} (distinct : Distinct entries)
    (member : entry ∈ set key value entries) :
    entry = (key, value) ∨ entry.1 ≠ key ∧ entry ∈ entries := by
  rcases mem_of_mem_set member with same | before
  · exact .inl same
  · by_cases named : entry.1 = key
    · exact .inl (List.inj_on_of_nodup_map (distinct_set distinct) member (mem_set key value entries) named)
    · exact .inr ⟨named, before⟩

end SimulationScript.Entries

namespace SimulationScript.OrderedMap

variable {α : Type}

theorem eq_of_entries {map map' : OrderedMap α} (same : map.entries = map'.entries) : map = map' := by
  cases map
  cases map'
  cases same
  rfl

theorem mem_of_get? {map : OrderedMap α} {key : String} {value : α} (found : map.get? key = some value) :
    (key, value) ∈ map.entries := by
  obtain ⟨before, after, split, _⟩ := List.lookup_eq_some_iff.mp found
  simp [split]

theorem not_mem_keys_of_get? {map : OrderedMap α} {key : String} (absent : map.get? key = none) :
    key ∉ Entries.keys map.entries := by
  intro present
  obtain ⟨entry, member, rfl⟩ := List.mem_map.mp present
  simpa using List.lookup_eq_none_iff.mp absent entry member

theorem entries_foldl_set (pairs : List (String × α)) (map : OrderedMap α) :
    (pairs.foldl (fun map pair => map.set pair.1 pair.2) map).entries =
      pairs.foldl (fun entries pair => Entries.set pair.1 pair.2 entries) map.entries := by
  induction pairs generalizing map with
  | nil => rfl
  | cons pair pairs ih => exact ih (map.set pair.1 pair.2)

/-- Setting all entries of a map in order makes the map. -/
theorem foldl_set_entries (map : OrderedMap α) :
    map.entries.foldl (fun map pair => map.set pair.1 pair.2) empty = map := by
  apply eq_of_entries
  rw [entries_foldl_set]
  exact Entries.collect_of_distinct map.distinct

end SimulationScript.OrderedMap
