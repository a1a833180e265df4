import Mathlib.Data.List.Basic
import SimulationScript.Json.Basic

/-! # Values that can be read back

What a value has to be so that its text can be read back, said of arrays and objects through the
values in them.
-/

namespace SimulationScript

def Number.isInteger : Number → Bool
  | .integer _ _ => true
  | .float _ => false

namespace Json

variable {depth : Nat} {items : List Json} {members : List (String × Json)}

mutual

/-- Every number in a value. -/
def numbers : Json → List Number
  | .num n => [n]
  | .arr items => numbersOfItems items
  | .obj members => numbersOfMembers members
  | _ => []

def numbersOfItems : List Json → List Number
  | [] => []
  | item :: rest => item.numbers ++ numbersOfItems rest

def numbersOfMembers : List (String × Json) → List Number
  | [] => []
  | (_, value) :: rest => value.numbers ++ numbersOfMembers rest

end

/-! ## Lists of values -/

theorem wellFormedItems_iff : WellFormedItems items ↔ ∀ item ∈ items, item.WellFormed := by
  induction items with
  | nil => simp [WellFormedItems]
  | cons item rest ih => simp [WellFormedItems, ih]

theorem wellFormedMembers_iff :
    WellFormedMembers members ↔ ∀ member ∈ members, member.2.WellFormed := by
  induction members with
  | nil => simp [WellFormedMembers]
  | cons member rest ih => simp [WellFormedMembers, ih]

theorem depthItems_le_iff : depthItems items ≤ depth ↔ ∀ item ∈ items, item.depth ≤ depth := by
  induction items with
  | nil => simp [depthItems]
  | cons item rest ih => rw [depthItems, Nat.max_le, ih, List.forall_mem_cons]

theorem depthMembers_le_iff :
    depthMembers members ≤ depth ↔ ∀ member ∈ members, member.2.depth ≤ depth := by
  induction members with
  | nil => simp [depthMembers]
  | cons member rest ih => rw [depthMembers, Nat.max_le, ih, List.forall_mem_cons]

theorem mem_numbersOfItems {n : Number} :
    n ∈ numbersOfItems items ↔ ∃ item ∈ items, n ∈ item.numbers := by
  induction items with
  | nil => simp [numbersOfItems]
  | cons item rest ih => simp [numbersOfItems, ih]

theorem mem_numbersOfMembers {n : Number} :
    n ∈ numbersOfMembers members ↔ ∃ member ∈ members, n ∈ member.2.numbers := by
  induction members with
  | nil => simp [numbersOfMembers]
  | cons member rest ih => simp [numbersOfMembers, ih]

/-! ## Readable values -/

/-- What a value has to be so that its text can be read back. -/
structure Readable (depth : Nat) (value : Json) : Prop where
  wellFormed : value.WellFormed
  nested : value.depth ≤ depth
  integers : ∀ n ∈ value.numbers, n.isInteger

theorem readable_arr_iff :
    Readable (depth + 1) (.arr items) ↔ ∀ item ∈ items, Readable depth item := by
  constructor
  · rintro ⟨wellFormed, nested, integers⟩ item member
    have shallow : depthItems items ≤ depth := Nat.le_of_succ_le_succ nested
    exact ⟨wellFormedItems_iff.mp wellFormed item member, depthItems_le_iff.mp shallow item member,
      fun n hn => integers n (mem_numbersOfItems.mpr ⟨item, member, hn⟩)⟩
  · intro each
    have shallow : depthItems items ≤ depth :=
      depthItems_le_iff.mpr fun item member => (each item member).nested
    refine ⟨wellFormedItems_iff.mpr fun item member => (each item member).wellFormed,
      Nat.succ_le_succ shallow, fun n hn => ?_⟩
    obtain ⟨item, member, hn⟩ := mem_numbersOfItems.mp hn
    exact (each item member).integers n hn

theorem readable_obj_iff : Readable (depth + 1) (.obj members) ↔
    Entries.Distinct members ∧ ∀ member ∈ members, Readable depth member.2 := by
  constructor
  · rintro ⟨⟨distinct, wellFormed⟩, nested, integers⟩
    have shallow : depthMembers members ≤ depth := Nat.le_of_succ_le_succ nested
    refine ⟨distinct, fun member mem => ?_⟩
    exact ⟨wellFormedMembers_iff.mp wellFormed member mem, depthMembers_le_iff.mp shallow member mem,
      fun n hn => integers n (mem_numbersOfMembers.mpr ⟨member, mem, hn⟩)⟩
  · rintro ⟨distinct, each⟩
    have shallow : depthMembers members ≤ depth :=
      depthMembers_le_iff.mpr fun member mem => (each member mem).nested
    refine ⟨⟨distinct, wellFormedMembers_iff.mpr fun member mem => (each member mem).wellFormed⟩,
      Nat.succ_le_succ shallow, fun n hn => ?_⟩
    obtain ⟨member, mem, hn⟩ := mem_numbersOfMembers.mp hn
    exact (each member mem).integers n hn

/-- An array or object that can be read back takes one bracket of those that may be open. -/
theorem Readable.exists_pred {value : Json} (readable : Readable depth value)
    (container : 0 < value.depth) : ∃ d, depth = d + 1 :=
  Nat.exists_eq_succ_of_ne_zero (Nat.ne_of_gt (Nat.lt_of_lt_of_le container readable.nested))

theorem readable_null (depth : Nat) : Readable depth .null :=
  ⟨trivial, Nat.zero_le depth, by simp [numbers]⟩

theorem readable_bool (depth : Nat) (b : Bool) : Readable depth (.bool b) :=
  ⟨trivial, Nat.zero_le depth, by simp [numbers]⟩

theorem readable_str (depth : Nat) (s : String) : Readable depth (.str s) :=
  ⟨trivial, Nat.zero_le depth, by simp [numbers]⟩

theorem readable_num (depth : Nat) {n : Number} (integer : n.isInteger) : Readable depth (.num n) :=
  ⟨trivial, Nat.zero_le depth, by simpa [numbers] using integer⟩

theorem readable_map {α : Type} {toJson : α → Json} (map : OrderedMap α)
    (each : ∀ entry ∈ map.entries, Readable depth (toJson entry.2)) :
    Readable (depth + 1) (.obj (map.entries.map fun (name, x) => (name, toJson x))) := by
  have sameNames :
      Entries.keys (map.entries.map fun (name, x) => (name, toJson x)) = Entries.keys map.entries := by
    simp [Entries.keys, Function.comp_def]
  rw [readable_obj_iff]
  constructor
  · rw [Entries.Distinct, sameNames]
    exact map.distinct
  · intro member mem
    obtain ⟨entry, present, rfl⟩ := List.mem_map.mp mem
    exact each entry present

end Json

end SimulationScript
