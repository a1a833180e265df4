/-! # Ordered maps

Maps from names to values that keep the order in which names first came. Setting a name again
replaces its value and keeps its place.
-/

namespace SimulationScript

namespace Entries

variable {α : Type}

def keys (entries : List (String × α)) : List String :=
  entries.map (·.1)

/-- Replaces the value of a name that is present, or appends the name and its value. -/
def set (key : String) (value : α) : List (String × α) → List (String × α)
  | [] => [(key, value)]
  | (k, v) :: rest => if k = key then (k, value) :: rest else (k, v) :: set key value rest

/-- Sets the pairs of a list one after the other. -/
def collect (pairs : List (String × α)) : List (String × α) :=
  pairs.foldl (fun entries pair => set pair.1 pair.2 entries) []

/-- No name occurs twice. -/
def Distinct (entries : List (String × α)) : Prop :=
  (keys entries).Nodup

theorem mem_keys_set {key name : String} {value : α} {entries : List (String × α)} :
    name ∈ keys (set key value entries) ↔ name = key ∨ name ∈ keys entries := by
  induction entries with
  | nil => simp [keys, set]
  | cons entry rest ih =>
    simp only [keys] at ih
    by_cases h : entry.1 = key
    · simp [keys, set, h]
    · simp [keys, set, h, ih, or_left_comm]

theorem distinct_set {key : String} {value : α} {entries : List (String × α)}
    (h : Distinct entries) : Distinct (set key value entries) := by
  induction entries with
  | nil => simp [Distinct, keys, set]
  | cons entry rest ih =>
    have hrest : Distinct rest := (List.nodup_cons.1 h).2
    have hfresh : entry.1 ∉ keys rest := (List.nodup_cons.1 h).1
    by_cases heq : entry.1 = key
    · simpa [Distinct, keys, set, heq] using h
    · simp only [Distinct, set, heq, if_false]
      refine List.nodup_cons.2 ⟨?_, ih hrest⟩
      intro hmem
      rcases mem_keys_set.1 hmem with h' | h'
      · exact heq h'
      · exact hfresh h'

theorem distinct_foldl_set (pairs : List (String × α)) {entries : List (String × α)}
    (h : Distinct entries) :
    Distinct (pairs.foldl (fun entries pair => set pair.1 pair.2 entries) entries) := by
  induction pairs generalizing entries with
  | nil => exact h
  | cons pair rest ih => exact ih (distinct_set h)

end Entries

/-- A map from names to values in the order in which the names were first set. -/
structure OrderedMap (α : Type) where
  entries : List (String × α)
  distinct : Entries.Distinct entries
  deriving Repr

namespace OrderedMap

variable {α : Type}

instance [DecidableEq α] : DecidableEq (OrderedMap α) := fun a b =>
  decidable_of_iff (a.entries = b.entries) (by cases a; cases b; simp)

def empty : OrderedMap α :=
  ⟨[], List.nodup_nil⟩

instance : Inhabited (OrderedMap α) := ⟨empty⟩

def get? (map : OrderedMap α) (key : String) : Option α :=
  map.entries.lookup key

/-- Replaces the value of a name that is present, or adds the name last. -/
def set (map : OrderedMap α) (key : String) (value : α) : OrderedMap α :=
  ⟨Entries.set key value map.entries, Entries.distinct_set map.distinct⟩

/-- Sets the pairs of a list one after the other. -/
def ofList (pairs : List (String × α)) : OrderedMap α :=
  ⟨Entries.collect pairs, Entries.distinct_foldl_set pairs List.nodup_nil⟩

def values (map : OrderedMap α) : List α :=
  map.entries.map (·.2)

def isEmpty (map : OrderedMap α) : Bool :=
  map.entries.isEmpty

def size (map : OrderedMap α) : Nat :=
  map.entries.length

end OrderedMap

end SimulationScript
