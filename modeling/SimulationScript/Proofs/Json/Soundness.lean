import SimulationScript.Proofs.Json.Grammar
import SimulationScript.Proofs.Json.Readable

/-! # What is read

Every value that is read from a text is well-formed and no deeper than allowed. Invariants of single
items and members carry over to all that is read between two brackets.
-/

namespace SimulationScript.Json

variable {depth : Nat} {first : Bool} {cs rest : List Char} {value : Json}

/-- All items have what each item has when it is read. -/
theorem forall_of_readItems {α : Type} {item : TextReader α} {P : α → Prop}
    (each : ∀ {cs value rest}, item cs = .ok (value, rest) → P value) {values : List α}
    (read : readItems item first cs = .ok (values, rest)) : ∀ value ∈ values, P value := by
  fun_induction readItems item first cs generalizing values with
  | case1 => cases read
  | case2 =>
      cases read
      simp
  | case3 => cases read
  | case4 first cs here place value after taken _ ih =>
      obtain ⟨⟨others, last⟩, onward, same⟩ := Fallible.map_eq_ok.mp read
      cases same
      exact List.forall_mem_cons.mpr ⟨each taken, ih onward⟩
  | case5 => cases read

/-- What each member preserves holds of the state after all of them. -/
theorem invariant_of_readMembers {σ : Type} {member : String → σ → TextReader σ} {Inv : σ → Prop}
    (each : ∀ {name state cs next rest}, Inv state →
      member name state cs = .ok (next, rest) → Inv next)
    {state last : σ} (start : Inv state)
    (read : readMembers member state first cs = .ok (last, rest)) : Inv last := by
  fun_induction readMembers member state first cs with
  | case1 => cases read
  | case2 =>
      cases read
      exact start
  | case3 => cases read
  | case4 => cases read
  | case5 state first cs here place name after named next middle taken _ ih =>
      exact ih (each start taken) read
  | case6 => cases read

theorem sound_of_readScalar (token : readScalar cs = .ok (value, rest)) :
    value.WellFormed ∧ value.depth ≤ depth := by
  cases spelledScalar_of_readScalar token <;> exact ⟨trivial, Nat.zero_le _⟩

theorem sound_of_readItems {item : TextReader Json}
    (each : ∀ {cs value rest}, item cs = .ok (value, rest) → value.WellFormed ∧ value.depth ≤ depth)
    {items : List Json} (read : readItems item first cs = .ok (items, rest)) :
    (Json.arr items).WellFormed ∧ (Json.arr items).depth ≤ depth + 1 := by
  have all := forall_of_readItems each read
  exact ⟨wellFormedItems_iff.mpr fun item mem => (all item mem).1,
    Nat.succ_le_succ (depthItems_le_iff.mpr fun item mem => (all item mem).2)⟩

/-- No two members have one name, and all values are well-formed and no deeper than allowed. -/
structure SoundMembers (depth : Nat) (members : List (String × Json)) : Prop where
  distinct : Entries.Distinct members
  values : ∀ member ∈ members, member.2.WellFormed ∧ member.2.depth ≤ depth

theorem SoundMembers.readMember {nested : TextReader Json}
    (each : ∀ {cs value rest}, nested cs = .ok (value, rest) →
      value.WellFormed ∧ value.depth ≤ depth)
    {name : String} {seen next : List (String × Json)} (sound : SoundMembers depth seen)
    (read : readMember nested name seen cs = .ok (next, rest)) : SoundMembers depth next := by
  simp only [Json.readMember, Fallible.bind_eq_ok] at read
  obtain ⟨start, _, ⟨value, last⟩, here, done⟩ := read
  cases done
  refine ⟨Entries.distinct_set sound.distinct, fun member mem => ?_⟩
  rcases Entries.mem_of_mem_set mem with rfl | before
  · exact each here
  · exact sound.values member before

theorem sound_of_readMembers {nested : TextReader Json}
    (each : ∀ {cs value rest}, nested cs = .ok (value, rest) →
      value.WellFormed ∧ value.depth ≤ depth)
    {members : List (String × Json)}
    (read : readMembers (readMember nested) [] first cs = .ok (members, rest)) :
    (Json.obj members).WellFormed ∧ (Json.obj members).depth ≤ depth + 1 := by
  have noneSeen : SoundMembers depth [] := ⟨List.nodup_nil, by simp⟩
  have sound := invariant_of_readMembers (SoundMembers.readMember each) noneSeen read
  exact ⟨⟨sound.distinct, wellFormedMembers_iff.mpr fun member mem => (sound.values member mem).1⟩,
    Nat.succ_le_succ (depthMembers_le_iff.mpr fun member mem => (sound.values member mem).2)⟩

/-- The three forms of what is read: a scalar, an array and an object. -/
theorem read_forms (read : read depth cs = .ok (value, rest)) :
    readScalar (skipSpace cs) = .ok (value, rest) ∨
      (∃ d more items, depth = d + 1 ∧ value = .arr items ∧ skipSpace cs = '[' :: more ∧
        readItems (Json.read d) true more = .ok (items, rest)) ∨
      ∃ d more members, depth = d + 1 ∧ value = .obj members ∧ skipSpace cs = '{' :: more ∧
        readMembers (readMember (Json.read d)) [] true more = .ok (members, rest) := by
  cases depth with
  | zero =>
      rw [Json.read, readWith] at read
      split at read
      · cases read
      · rename_i c more starts
        simp only at read
        split_ifs at read
        rw [starts]
        exact .inl read
  | succ depth =>
      rw [Json.read, readWith] at read
      split at read
      · cases read
      · rename_i c more starts
        simp only at read
        split_ifs at read with bracket brace
        · obtain ⟨⟨items, last⟩, here, same⟩ := Fallible.map_eq_ok.mp read
          cases same
          exact .inr (.inl ⟨depth, more, items, rfl, rfl, bracket ▸ starts, here⟩)
        · obtain ⟨⟨members, last⟩, here, same⟩ := Fallible.map_eq_ok.mp read
          cases same
          exact .inr (.inr ⟨depth, more, members, rfl, rfl, brace ▸ starts, here⟩)
        · rw [starts]
          exact .inl read

/-- What is read from a text names nothing twice in one object and keeps to the nesting allowed. -/
theorem sound_of_read (read : read depth cs = .ok (value, rest)) :
    value.WellFormed ∧ value.depth ≤ depth := by
  induction depth generalizing cs value rest with
  | zero =>
      rcases read_forms read with token | ⟨_, _, _, noneLeft, _⟩ | ⟨_, _, _, noneLeft, _⟩
      · exact sound_of_readScalar token
      · cases noneLeft
      · cases noneLeft
  | succ depth ih =>
      rcases read_forms read with token | ⟨_, _, _, oneLess, rfl, _, here⟩ |
        ⟨_, _, _, oneLess, rfl, _, here⟩
      · exact sound_of_readScalar token
      · cases oneLess
        exact sound_of_readItems ih here
      · cases oneLess
        exact sound_of_readMembers ih here

/-- Only what begins like null is read as null. -/
theorem starts_of_read_null (read : read depth cs = .ok (.null, rest)) :
    ∃ more, skipSpace cs = 'n' :: more := by
  rcases read_forms read with token | ⟨_, _, _, _, noNull, _⟩ | ⟨_, _, _, _, noNull, _⟩
  · have spelled := spelledScalar_of_readScalar token
    generalize skipSpace cs = here at spelled
    cases spelled with
    | null => exact ⟨_, rfl⟩
  · cases noNull
  · cases noNull

end SimulationScript.Json
