import Mathlib.Data.List.Basic
import SimulationScript.Decoding.Record
import SimulationScript.Proofs.Fallible

/-! # Records part by part

What a record is read as, said of each of its parts alone. A part is given by a member of an object or
by an item of an array, or it takes its default; where the member stands and what stands beside it
does not matter.
-/

namespace SimulationScript.RecordType

variable {σ α ι : Type}

/-- The parts of the records of a type: how a part is called and read, where drafts keep it, and what
    it is in a finished record. Parts without a default are required. -/
structure Parts (type : RecordType σ α) (ι : Type) where
  /-- The parts in the order of the array form. -/
  order : List ι
  Part : ι → Type
  name : ι → String
  aliases : ι → List String
  decoder : (i : ι) → Decoder (Part i)
  get : (i : ι) → σ → Option (Part i)
  put : (i : ι) → σ → Part i → σ
  component : (i : ι) → α → Part i
  default : (i : ι) → Option (Part i)

namespace Parts

variable {type : RecordType σ α}

def field (parts : Parts type ι) (i : ι) : Field σ :=
  .of (parts.name i) (parts.aliases i) (parts.default i).isNone (parts.get i) (parts.put i)
    (parts.decoder i)

/-- All names of a part. -/
def names (parts : Parts type ι) (i : ι) : List String :=
  parts.name i :: parts.aliases i

/-- The parts are those of the record type, do not interfere with each other, and make up its
    records. -/
structure Lawful (parts : Parts type ι) : Prop where
  fields : type.fields = parts.order.map parts.field
  complete : ∀ i, i ∈ parts.order
  nodup : parts.order.Nodup
  apart : ∀ {i j name}, name ∈ parts.names i → name ∈ parts.names j → i = j
  get_blank : ∀ i, parts.get i type.blank = none
  get_put : ∀ i draft x, parts.get i (parts.put i draft x) = some x
  get_put_of_ne : ∀ {i j} draft x, j ≠ i → parts.get j (parts.put i draft x) = parts.get j draft
  build : ∀ draft record, type.build draft = .ok record ↔
    ∀ i, (parts.get i draft).or (parts.default i) = some (parts.component i record)

variable {parts : Parts type ι}

theorem hasName_field (i : ι) (name : String) :
    (parts.field i).hasName name ↔ name ∈ parts.names i := by
  simp [field, Field.of, Field.hasName, names, @eq_comm _ (parts.name i)]

/-! ## Objects -/

/-- The values of the members that give a part. -/
def given (parts : Parts type ι) (i : ι) (members : List (String × Json)) : List Json :=
  (members.filter fun (name, _) => name ∈ parts.names i).map (·.2)

theorem given_cons_of_mem {i : ι} {name : String} (mem : name ∈ parts.names i) (value : Json)
    (members : List (String × Json)) :
    parts.given i ((name, value) :: members) = value :: parts.given i members := by
  simp [given, mem]

theorem given_cons_of_not_mem {i : ι} {name : String} (not_mem : name ∉ parts.names i)
    (value : Json) (members : List (String × Json)) :
    parts.given i ((name, value) :: members) = parts.given i members := by
  simp [given, not_mem]

/-- A part of which a draft has `start` comes out as `result` when these values are given for it. -/
def Settles (parts : Parts type ι) (i : ι) (start : Option (parts.Part i)) (result : parts.Part i) :
    List Json → Prop
  | [] => start.or (parts.default i) = some result
  | [value] => start = none ∧ (parts.decoder i).ofJson value = .ok result
  | _ => False

theorem settles_cons_of_some {i : ι} {x result : parts.Part i} {value : Json} {values : List Json} :
    ¬ parts.Settles i (some x) result (value :: values) := by
  cases values <;> simp [Settles]

theorem settles_cons_of_error {i : ι} {start : Option (parts.Part i)} {result : parts.Part i}
    {value : Json} {values : List Json} {cause : DecodeError}
    (refused : (parts.decoder i).ofJson value = .error cause) :
    ¬ parts.Settles i start result (value :: values) := by
  cases values <;> simp [Settles, refused]

/-- A value that is read may just as well stand in the draft already. -/
theorem settles_cons_of_ok {i : ι} {x result : parts.Part i} {value : Json} {values : List Json}
    (read : (parts.decoder i).ofJson value = .ok x) :
    parts.Settles i none result (value :: values) ↔ parts.Settles i (some x) result values := by
  cases values with
  | nil => simp [Settles, read]
  | cons next others =>
      have left : ¬ parts.Settles i none result (value :: next :: others) := by simp [Settles]
      exact iff_of_false left settles_cons_of_some

theorem field?_eq (lawful : parts.Lawful) (name : String) :
    type.field? name = (parts.order.find? fun i => name ∈ parts.names i).map parts.field := by
  have same : (fun i => (parts.field i).hasName name) = fun i => decide (name ∈ parts.names i) := by
    funext i
    rw [Bool.eq_iff_iff, hasName_field, decide_eq_true_iff]
  rw [field?, lawful.fields, List.find?_map, Function.comp_def, same]

theorem setMember_of_not_mem (lawful : parts.Lawful) {name : String}
    (unknown : ∀ i, name ∉ parts.names i) (draft : σ) (value : Json) :
    type.setMember draft (name, value) = .ok draft := by
  have noneFound : parts.order.find? (fun i => decide (name ∈ parts.names i)) = none := by
    simp [unknown]
  simp only [setMember, field?_eq lawful, noneFound, Option.map_none]

theorem setMember_of_mem (lawful : parts.Lawful) {i : ι} {name : String}
    (mem : name ∈ parts.names i) (draft : σ) (value : Json) :
    type.setMember draft (name, value) =
      if (parts.get i draft).isSome then .error (.duplicateField (parts.field i).name)
      else ((parts.decoder i).ofJson value).map (parts.put i draft) := by
  have found : parts.order.find? (fun i => decide (name ∈ parts.names i)) = some i := by
    cases first : parts.order.find? (fun i => decide (name ∈ parts.names i)) with
    | none =>
        have absent := List.find?_eq_none.mp first i (lawful.complete i)
        simp [mem] at absent
    | some j =>
        have named : name ∈ parts.names j := by simpa using List.find?_some first
        rw [lawful.apart named mem]
  simp only [setMember, field?_eq lawful, found, Option.map_some]
  rfl

/-- A member is taken into a draft so that the members after it settle the parts as all did. -/
theorem setMember_iff (lawful : parts.Lawful) {results : (i : ι) → parts.Part i} (name : String)
    (value : Json) (rest : List (String × Json)) (draft : σ) :
    (∃ next, type.setMember draft (name, value) = .ok next ∧
        ∀ i, parts.Settles i (parts.get i next) (results i) (parts.given i rest)) ↔
      ∀ i, parts.Settles i (parts.get i draft) (results i)
        (parts.given i ((name, value) :: rest)) := by
  by_cases known : ∃ j, name ∈ parts.names j
  · obtain ⟨j, mem⟩ := known
    have here := given_cons_of_mem mem value rest
    have elsewhere (i : ι) (other : i ≠ j) :
        parts.given i ((name, value) :: rest) = parts.given i rest :=
      given_cons_of_not_mem (fun also => other (lawful.apart also mem)) value rest
    rw [setMember_of_mem lawful mem]
    cases start : parts.get j draft with
    | some x =>
        refine iff_of_false (by simp) fun settled => ?_
        have stuck := settled j
        rw [start, here] at stuck
        exact settles_cons_of_some stuck
    | none =>
        cases read : (parts.decoder j).ofJson value with
        | error cause =>
            refine iff_of_false (by simp [Except.map]) fun settled => ?_
            have stuck := settled j
            rw [here] at stuck
            exact settles_cons_of_error read stuck
        | ok x =>
            simp only [Option.isSome_none, Bool.false_eq_true, if_false, Except.map,
              Except.ok.injEq, exists_eq_left']
            refine forall_congr' fun i => ?_
            by_cases same : i = j
            · subst same
              rw [lawful.get_put, start, here, settles_cons_of_ok read]
            · rw [lawful.get_put_of_ne draft x same, elsewhere i same]
  · have unknown (i : ι) : name ∉ parts.names i := fun mem => known ⟨i, mem⟩
    simp [setMember_of_not_mem lawful unknown, given_cons_of_not_mem (unknown _)]

/-- The members of an object finish a draft exactly when they settle each of its parts. -/
theorem foldlM_setMember_iff (lawful : parts.Lawful) {results : (i : ι) → parts.Part i}
    (members : List (String × Json)) (draft : σ) :
    (∃ full, members.foldlM type.setMember draft = .ok full ∧
        ∀ i, (parts.get i full).or (parts.default i) = some (results i)) ↔
      ∀ i, parts.Settles i (parts.get i draft) (results i) (parts.given i members) := by
  induction members generalizing draft with
  | nil => simp [given, Settles, pure, Except.pure]
  | cons member rest ih =>
      obtain ⟨name, value⟩ := member
      rw [← setMember_iff lawful, List.foldlM_cons]
      simp only [Fallible.bind_eq_ok, ← ih]
      constructor
      · intro finished
        obtain ⟨full, ⟨next, taken, later⟩, made⟩ := finished
        exact ⟨next, taken, full, later, made⟩
      · intro finished
        obtain ⟨next, taken, full, later, made⟩ := finished
        exact ⟨full, ⟨next, taken, later⟩, made⟩

/-- An object is read as a record exactly when each part is given at most once, as a value that is
    read as this part of the record, or is left out with this part of the record as its default. -/
theorem ofJson_obj_iff (lawful : parts.Lawful) {members : List (String × Json)} {record : α} :
    type.ofJson (.obj members) = .ok record ↔
      ∀ i, parts.Settles i none (parts.component i record) (parts.given i members) := by
  rw [ofJson, Fallible.bind_eq_ok]
  simp only [lawful.build, foldlM_setMember_iff lawful, lawful.get_blank]

/-! ## Arrays -/

/-- The items are read as these parts in order; parts without an item take their defaults. -/
def Covers (parts : Parts type ι) (results : (i : ι) → parts.Part i) : List ι → List Json → Prop
  | [], _ => True
  | i :: rest, [] => parts.default i = some (results i) ∧ Covers parts results rest []
  | i :: rest, item :: items =>
      (parts.decoder i).ofJson item = .ok (results i) ∧ Covers parts results rest items

theorem forall_not_mem_iff {i : ι} {rest : List ι} (fresh : i ∉ rest) {p : ι → Prop} :
    (∀ j, j ∉ rest → p j) ↔ p i ∧ ∀ j, j ∉ i :: rest → p j := by
  constructor
  · intro all
    exact ⟨all i fresh, fun j outside => all j fun mem => outside (List.mem_cons_of_mem i mem)⟩
  · rintro ⟨here, others⟩ j outside
    by_cases same : j = i
    · exact same ▸ here
    · exact others j (by simp [same, outside])

theorem setItems_iff (lawful : parts.Lawful) (results : (i : ι) → parts.Part i) {rest : List ι}
    (nodup : rest.Nodup) {draft : σ} (unset : ∀ i ∈ rest, parts.get i draft = none) (index : Nat)
    (items : List Json) :
    (∃ full, type.setItems (rest.map parts.field) index draft items = .ok full ∧
        ∀ i, (parts.get i full).or (parts.default i) = some (results i)) ↔
      (∀ i, i ∉ rest → (parts.get i draft).or (parts.default i) = some (results i)) ∧
        parts.Covers results rest items := by
  induction rest generalizing draft index items with
  | nil => simp [setItems, Covers]
  | cons i rest ih =>
      obtain ⟨fresh, nodup⟩ := List.nodup_cons.mp nodup
      obtain ⟨unsetHere, unset⟩ := List.forall_mem_cons.mp unset
      cases items with
      | nil =>
          cases missing : parts.default i with
          | none => simp [setItems, field, Field.of, Covers, missing]
          | some x =>
              have optional : (parts.field i).required = false := by simp [field, Field.of, missing]
              simp only [List.map_cons, setItems, optional, Bool.false_eq_true, if_false, Covers,
                ih nodup unset, forall_not_mem_iff fresh, unsetHere, missing, Option.none_or]
              tauto
      | cons item items =>
          have taken : (parts.field i).ofJson draft item =
              ((parts.decoder i).ofJson item).map (parts.put i draft) := rfl
          cases read : (parts.decoder i).ofJson item with
          | error cause => simp [setItems, taken, read, Covers, Except.map]
          | ok x =>
              have other {j : ι} (mem : j ∈ rest) : j ≠ i := fun same => fresh (same ▸ mem)
              have unset' : ∀ j ∈ rest, parts.get j (parts.put i draft x) = none := fun j mem =>
                (lawful.get_put_of_ne draft x (other mem)).trans (unset j mem)
              have elsewhere : ∀ j, j ∉ i :: rest →
                  parts.get j (parts.put i draft x) = parts.get j draft := fun j outside =>
                lawful.get_put_of_ne draft x fun same => outside (by simp [same])
              have kept : (∀ j, j ∉ i :: rest →
                    (parts.get j (parts.put i draft x)).or (parts.default j) = some (results j)) ↔
                  ∀ j, j ∉ i :: rest → (parts.get j draft).or (parts.default j) = some (results j) :=
                forall₂_congr fun j outside => by rw [elsewhere j outside]
              simp only [List.map_cons, setItems, taken, read, Except.map, ih nodup unset',
                forall_not_mem_iff fresh, kept, lawful.get_put, Option.some_or, Option.some.injEq,
                Covers, Except.ok.injEq]
              tauto

/-- An array is read as a record exactly when it has no more items than there are parts, its items are
    read as the first parts of the record, and the other parts are their defaults. -/
theorem ofJson_arr_iff (lawful : parts.Lawful) {items : List Json} {record : α} :
    type.ofJson (.arr items) = .ok record ↔
      items.length ≤ parts.order.length ∧
        parts.Covers (parts.component · record) parts.order items := by
  have fits : type.fields.length = parts.order.length := by rw [lawful.fields, List.length_map]
  have filled := setItems_iff lawful (parts.component · record) lawful.nodup
    (fun i _ => lawful.get_blank i) 0 items
  rw [← lawful.fields] at filled
  have noOther : ∀ i, i ∉ parts.order → (parts.get i type.blank).or (parts.default i) =
      some (parts.component i record) := fun i outside => absurd (lawful.complete i) outside
  rw [and_iff_right noOther] at filled
  rw [← filled, ← fits, ofJson, Fallible.bind_eq_ok]
  simp only [← lawful.build]
  by_cases long : type.fields.length < items.length
  · have tooMany : ¬ items.length ≤ type.fields.length := Nat.not_le.mpr long
    simp [long, tooMany, throw, throwThe, MonadExceptOf.throw, bind, Except.bind]
  · simp [long, Nat.not_lt.mp long]

end Parts

end SimulationScript.RecordType
