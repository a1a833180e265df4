import SimulationScript.Proofs.Decoding.Parts
import SimulationScript.Proofs.Json.Soundness

/-! # Where the parts of a record come from

A record that is read off a text has no part that is not its default or was itself read off the text.
What holds of everything a decoder reads therefore holds of the part.
-/

namespace SimulationScript

open Json

theorem Decoder.ofText_any (depth : Nat) (cs : List Char) : any.ofText depth cs = read depth cs := by
  simp only [any, buffered]
  cases read depth cs <;> rfl

/-- A value that may be null and is not has been read as it stands. -/
theorem Decoder.read_of_nullable {depth : Nat} {cs rest : List Char} {value : Json}
    (read : (nullable any).ofText depth cs = .ok (some value, rest)) :
    Json.read depth (skipSpace cs) = .ok (value, rest) ∧ value ≠ .null := by
  simp only [nullable] at read
  split at read
  case h_1 =>
      obtain ⟨_, _, same⟩ := Fallible.map_eq_ok.mp read
      cases same
  case h_2 other =>
      obtain ⟨⟨value', last⟩, here, same⟩ := Fallible.map_eq_ok.mp read
      cases same
      rw [ofText_any] at here
      refine ⟨here, ?_⟩
      rintro rfl
      obtain ⟨more, starts⟩ := starts_of_read_null here
      exact other more ((List.dropWhile_idempotent _ cs).symm.trans starts)

namespace RecordType.Parts

variable {σ α ι : Type} {type : RecordType σ α} {parts : Parts type ι} {record : α} {depth : Nat}
  {draft next : σ} {cs rest : List Char}

/-- The value of a part is read off some text. -/
def ReadOff (parts : Parts type ι) (depth : Nat) (i : ι) (x : parts.Part i) : Prop :=
  ∃ cs rest, (parts.decoder i).ofText depth cs = .ok (x, rest)

/-- All parts in a draft are read off texts. -/
def Filled (parts : Parts type ι) (depth : Nat) (draft : σ) : Prop :=
  ∀ i x, parts.get i draft = some x → parts.ReadOff depth i x

theorem Filled.field (lawful : parts.Lawful) {field : Field σ} (known : field ∈ type.fields)
    (filled : parts.Filled depth draft) (read : field.ofText depth draft cs = .ok (next, rest)) :
    parts.Filled depth next := by
  rw [lawful.fields] at known
  obtain ⟨j, _, rfl⟩ := List.mem_map.mp known
  obtain ⟨⟨y, last⟩, here, same⟩ := Fallible.map_eq_ok.mp read
  cases same
  intro i x present
  by_cases this : i = j
  · subst this
    rw [lawful.get_put] at present
    cases present
    exact ⟨cs, rest, here⟩
  · rw [lawful.get_put_of_ne draft y this] at present
    exact filled i x present

theorem Filled.readMember (lawful : parts.Lawful) {name : String}
    (filled : parts.Filled depth draft)
    (read : type.readMember depth name draft cs = .ok (next, rest)) : parts.Filled depth next := by
  unfold RecordType.readMember at read
  split at read
  · simp only [Fallible.bind_eq_ok] at read
    obtain ⟨_, _, _, _, done⟩ := read
    cases done
    exact filled
  · rename_i field known
    split_ifs at read
    obtain ⟨start, _, here⟩ := Fallible.bind_eq_ok.mp read
    exact filled.field lawful (List.mem_of_find?_eq_some known) here

theorem Filled.readFields (lawful : parts.Lawful) {fields : List (Field σ)}
    (known : ∀ field ∈ fields, field ∈ type.fields) {first : Bool} (filled : parts.Filled depth draft)
    (read : readFields depth fields first draft cs = .ok (next, rest)) : parts.Filled depth next := by
  induction fields generalizing first draft cs with
  | nil =>
      obtain ⟨_, _, same⟩ := Fallible.map_eq_ok.mp read
      cases same
      exact filled
  | cons field fields ih =>
      obtain ⟨knownHere, known⟩ := List.forall_mem_cons.mp known
      rw [RecordType.readFields] at read
      split at read
      · cases read
      · split_ifs at read
        cases read
        exact filled
      · split at read
        · cases read
        · rename_i here
          exact ih known (filled.field lawful knownHere here) read

theorem filled_blank (lawful : parts.Lawful) (depth : Nat) : parts.Filled depth type.blank := by
  intro i x present
  rw [lawful.get_blank] at present
  cases present

theorem build_of_refused {result : Except DecodeError α} {x : α}
    (read : Decoder.refused result cs = .ok (x, rest)) : result = .ok x := by
  cases result with
  | error => cases read
  | ok y =>
      cases read
      rfl

theorem exists_draft (lawful : parts.Lawful) (read : type.ofText depth cs = .ok (record, rest)) :
    ∃ d draft, depth = d + 1 ∧ parts.Filled d draft ∧ type.build draft = .ok record := by
  unfold ofText at read
  split at read
  · cases depth with
    | zero => cases read
    | succ d =>
        obtain ⟨⟨draft, last⟩, here, built⟩ := Fallible.bind_eq_ok.mp read
        have filled : parts.Filled d draft :=
          invariant_of_readMembers (Filled.readMember lawful) (filled_blank lawful d) here
        exact ⟨d, draft, rfl, filled, build_of_refused built⟩
  · cases depth with
    | zero => cases read
    | succ d =>
        obtain ⟨⟨draft, last⟩, here, built⟩ := Fallible.bind_eq_ok.mp read
        have filled := (filled_blank lawful d).readFields lawful (fun _ known => known) here
        exact ⟨d, draft, rfl, filled, build_of_refused built⟩
  · cases read

/-- A part of a record that is read off a text is its default or is itself read off a text, within
    one bracket less. -/
theorem part_of_ofText (lawful : parts.Lawful) (read : type.ofText depth cs = .ok (record, rest))
    (i : ι) : parts.default i = some (parts.component i record) ∨
      ∃ d, depth = d + 1 ∧ parts.ReadOff d i (parts.component i record) := by
  obtain ⟨d, draft, rfl, filled, built⟩ := exists_draft lawful read
  have made := (lawful.build draft record).mp built i
  rcases Option.or_eq_some_iff.mp made with present | ⟨_, default⟩
  · exact .inr ⟨d, rfl, filled i _ present⟩
  · exact .inl default

end RecordType.Parts

end SimulationScript
