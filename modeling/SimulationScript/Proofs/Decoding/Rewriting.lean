import Mathlib.Logic.Relation
import SimulationScript.Proofs.Decoding.Parts

/-! # Ways to write a record

One record can be written in many ways: with its members in another order or under other names, with
members that nobody knows, without members that say what is understood anyway, and as an array. All
of them are read alike.
-/

namespace SimulationScript.RecordType.Parts

variable {σ α ι : Type} {type : RecordType σ α} {parts : Parts type ι} {record : α}
  {members members' front back : List (String × Json)} {items : List Json} {name : String} {i : ι}

/-- The part may be left out of what is written for the record. -/
def IsDefault (parts : Parts type ι) (record : α) (i : ι) : Prop :=
  parts.default i = some (parts.component i record)

/-- The item says of a part what the members say: it is the value of the member for this part, or is
    read as the default of the part if no member has one of its names. -/
def Gives (parts : Parts type ι) (members : List (String × Json)) (i : ι) (item : Json) : Prop :=
  (∃ name ∈ parts.names i, (name, item) ∈ members) ∨
    (∀ name ∈ parts.names i, name ∉ Entries.keys members) ∧
      ∃ x, parts.default i = some x ∧ (parts.decoder i).ofJson item = .ok x

/-- The items say of the first parts what the members say, and the other parts may be left out. -/
structure ArrayForm (parts : Parts type ι) (record : α) (members : List (String × Json))
    (items : List Json) : Prop where
  written : List.Forall₂ (parts.Gives members) (parts.order.take items.length) items
  omitted : ∀ i ∈ parts.order.drop items.length, parts.IsDefault record i

/-- One change of what is written for a record. -/
inductive Rewriting (parts : Parts type ι) (record : α) : Json → Json → Prop where
  | permute {members members' : List (String × Json)} : members.Perm members' →
      Rewriting parts record (.obj members) (.obj members')
  | extend (front : List (String × Json)) {back : List (String × Json)} (name : String)
      (value : Json) : (∀ i, name ∉ parts.names i) →
      Rewriting parts record (.obj (front ++ back)) (.obj (front ++ (name, value) :: back))
  | rename (front : List (String × Json)) {back : List (String × Json)} (i : ι) {name : String}
      (name' : String) {value : Json} : name ∈ parts.names i → name' ∈ parts.names i →
      Rewriting parts record (.obj (front ++ (name, value) :: back))
        (.obj (front ++ (name', value) :: back))
  | leaveOut (front : List (String × Json)) {back : List (String × Json)} (i : ι) {name : String}
      {value : Json} : name ∈ parts.names i → parts.IsDefault record i →
      Rewriting parts record (.obj (front ++ (name, value) :: back)) (.obj (front ++ back))
  | enumerate {members : List (String × Json)} {items : List Json} :
      parts.ArrayForm record members items → Rewriting parts record (.obj members) (.arr items)

/-! ## What the members give -/

theorem given_append (i : ι) (front back : List (String × Json)) :
    parts.given i (front ++ back) = parts.given i front ++ parts.given i back := by
  simp [given]

theorem mem_given {value : Json} :
    value ∈ parts.given i members ↔ ∃ name ∈ parts.names i, (name, value) ∈ members := by
  simp [given, and_comm]

theorem given_eq_nil_iff :
    parts.given i members = [] ↔ ∀ name ∈ parts.names i, name ∉ Entries.keys members := by
  rw [List.eq_nil_iff_forall_not_mem]
  constructor
  · intro empty name named here
    obtain ⟨⟨_, value⟩, member, rfl⟩ := List.mem_map.mp here
    exact empty value (mem_given.mpr ⟨_, named, member⟩)
  · intro absent value given
    obtain ⟨name, named, member⟩ := mem_given.mp given
    exact absent name named (List.mem_map.mpr ⟨_, member, rfl⟩)

theorem Settles.perm {start : Option (parts.Part i)} {result : parts.Part i}
    {values values' : List Json} (settled : parts.Settles i start result values)
    (same : values.Perm values') : parts.Settles i start result values' := by
  cases values with
  | nil => rwa [← same.nil_eq]
  | cons value others =>
      cases others with
      | nil => rwa [← List.singleton_perm.mp same]
      | cons next more => simp [Settles] at settled

theorem Settles.eq_of_mem {start : Option (parts.Part i)} {result : parts.Part i}
    {values : List Json} {value : Json} (settled : parts.Settles i start result values)
    (given : value ∈ values) : values = [value] ∧ (parts.decoder i).ofJson value = .ok result := by
  cases values with
  | nil => cases given
  | cons first others =>
      cases others with
      | nil =>
          obtain rfl := List.mem_singleton.mp given
          exact ⟨rfl, settled.2⟩
      | cons next more => simp [Settles] at settled

/-- What an object says can be said by an array up to any part behind which all may be left out. -/
theorem exists_arrayForm (lawful : parts.Lawful)
    (writable : ∀ i x, parts.default i = some x → ∃ item, (parts.decoder i).ofJson item = .ok x)
    (decoded : type.ofJson (.obj members) = .ok record) {count : Nat}
    (fits : count ≤ parts.order.length)
    (omitted : ∀ i ∈ parts.order.drop count, parts.IsDefault record i) :
    ∃ items, items.length = count ∧ parts.ArrayForm record members items := by
  rw [ofJson_obj_iff lawful] at decoded
  have gives (i : ι) : ∃ item, parts.Gives members i item := by
    cases given : parts.given i members with
    | nil =>
        have default : parts.default i = some (parts.component i record) := by
          simpa [given, Settles] using decoded i
        obtain ⟨item, read⟩ := writable i _ default
        exact ⟨item, .inr ⟨given_eq_nil_iff.mp given, _, default, read⟩⟩
    | cons value others => exact ⟨value, .inl (mem_given.mp (by simp [given]))⟩
  choose item gives using gives
  have length : ((parts.order.take count).map item).length = count := by simp [fits]
  refine ⟨(parts.order.take count).map item, length, ?_, ?_⟩
  · rw [length, List.forall₂_map_right_iff, List.forall₂_same]
    exact fun i _ => gives i
  · rwa [length]

/-! ## One change -/

theorem ofJson_permute (lawful : parts.Lawful) (same : members.Perm members')
    (decoded : type.ofJson (.obj members) = .ok record) :
    type.ofJson (.obj members') = .ok record := by
  rw [ofJson_obj_iff lawful] at decoded ⊢
  intro i
  exact (decoded i).perm ((same.filter _).map _)

theorem ofJson_extend (lawful : parts.Lawful) (value : Json) (unknown : ∀ i, name ∉ parts.names i)
    (decoded : type.ofJson (.obj (front ++ back)) = .ok record) :
    type.ofJson (.obj (front ++ (name, value) :: back)) = .ok record := by
  rw [ofJson_obj_iff lawful] at decoded ⊢
  intro i
  rw [given_append, given_cons_of_not_mem (unknown i), ← given_append]
  exact decoded i

theorem ofJson_rename (lawful : parts.Lawful) {name' : String} {value : Json}
    (named : name ∈ parts.names i) (named' : name' ∈ parts.names i)
    (decoded : type.ofJson (.obj (front ++ (name, value) :: back)) = .ok record) :
    type.ofJson (.obj (front ++ (name', value) :: back)) = .ok record := by
  rw [ofJson_obj_iff lawful] at decoded ⊢
  intro j
  have settled := decoded j
  rw [given_append] at settled ⊢
  by_cases same : j = i
  · subst same
    rwa [given_cons_of_mem named', ← given_cons_of_mem named]
  · have other : name ∉ parts.names j := fun also => same (lawful.apart also named)
    have other' : name' ∉ parts.names j := fun also => same (lawful.apart also named')
    rw [given_cons_of_not_mem other] at settled
    rwa [given_cons_of_not_mem other']

theorem ofJson_leaveOut (lawful : parts.Lawful) {value : Json} (named : name ∈ parts.names i)
    (default : parts.IsDefault record i)
    (decoded : type.ofJson (.obj (front ++ (name, value) :: back)) = .ok record) :
    type.ofJson (.obj (front ++ back)) = .ok record := by
  rw [ofJson_obj_iff lawful] at decoded ⊢
  intro j
  have settled := decoded j
  rw [given_append] at settled ⊢
  by_cases same : j = i
  · subst same
    rw [given_cons_of_mem named] at settled
    have here : value ∈ parts.given j front ++ value :: parts.given j back := by simp
    obtain ⟨only, _⟩ := settled.eq_of_mem here
    have noneElse : parts.given j front ++ parts.given j back = [] := by
      have length := congrArg List.length only
      simp only [List.length_append, List.length_cons, List.length_nil] at length
      rw [← List.length_eq_zero_iff, List.length_append]
      omega
    rw [noneElse]
    exact default
  · have other : name ∉ parts.names j := fun also => same (lawful.apart also named)
    rwa [given_cons_of_not_mem other] at settled

theorem covers_of_forall₂ {results : (i : ι) → parts.Part i} {order : List ι}
    (written : List.Forall₂ (fun i item => (parts.decoder i).ofJson item = .ok (results i))
      (order.take items.length) items)
    (omitted : ∀ i ∈ order.drop items.length, parts.default i = some (results i)) :
    parts.Covers results order items := by
  induction order generalizing items with
  | nil => trivial
  | cons i rest ih =>
      cases items with
      | nil =>
          obtain ⟨here, later⟩ := List.forall_mem_cons.mp omitted
          exact ⟨here, ih .nil later⟩
      | cons item items =>
          simp only [List.length_cons, List.take_succ_cons, List.forall₂_cons] at written
          exact ⟨written.1, ih written.2 omitted⟩

theorem ofJson_enumerate (lawful : parts.Lawful) (form : parts.ArrayForm record members items)
    (decoded : type.ofJson (.obj members) = .ok record) :
    type.ofJson (.arr items) = .ok record := by
  rw [ofJson_obj_iff lawful] at decoded
  obtain ⟨written, omitted⟩ := form
  have fits : items.length ≤ parts.order.length := by
    have sameLength := written.length_eq
    rw [List.length_take] at sameLength
    omega
  refine (ofJson_arr_iff lawful).mpr ⟨fits, covers_of_forall₂ (written.imp ?_) omitted⟩
  intro i item gives
  rcases gives with present | ⟨absent, x, default, read⟩
  · exact ((decoded i).eq_of_mem (mem_given.mpr present)).2
  · have settled := decoded i
    rw [given_eq_nil_iff.mpr absent] at settled
    obtain rfl := Option.some.inj (default.symm.trans settled)
    exact read

theorem Rewriting.decodes (lawful : parts.Lawful) {value value' : Json}
    (rewriting : parts.Rewriting record value value') (decoded : type.ofJson value = .ok record) :
    type.ofJson value' = .ok record := by
  cases rewriting with
  | permute same => exact ofJson_permute lawful same decoded
  | extend front name value unknown => exact ofJson_extend lawful value unknown decoded
  | rename front i name' named named' => exact ofJson_rename lawful named named' decoded
  | leaveOut front i named default => exact ofJson_leaveOut lawful named default decoded
  | enumerate form => exact ofJson_enumerate lawful form decoded

/-- Any number of changes to what is written for a record leaves it what it is read as. -/
theorem decodes_of_rewritings (lawful : parts.Lawful) {value value' : Json}
    (rewritings : Relation.ReflTransGen (parts.Rewriting record) value value')
    (decoded : type.ofJson value = .ok record) : type.ofJson value' = .ok record := by
  induction rewritings with
  | refl => exact decoded
  | tail _ last ih => exact last.decodes lawful ih

end SimulationScript.RecordType.Parts
