import SimulationScript.Proofs.Json.Soundness

/-! # Texts taken apart

Every text that can be read can be taken apart into a value that keeps each member of an object where
it stands, and in one way only. The text is a document of what is read from it exactly when no name
stands twice in one object.
-/

namespace SimulationScript.Json

/-- A value as it stands in a text, repeated names included, given how the values nested in it stand
    there, if any may be. -/
inductive WrittenWith (nested : Option Spelling) : List Char → Json → List Char → Prop where
  | scalar {cs value rest} (token : SpelledScalar (skipSpace cs) value rest) :
      WrittenWith nested cs value rest
  | array {item cs more items rest} (allowed : nested = some item)
      (starts : skipSpace cs = '[' :: more) (spelled : SpelledItems item true more items rest) :
      WrittenWith nested cs (.arr items) rest
  | object {member cs more members rest} (allowed : nested = some member)
      (starts : skipSpace cs = '{' :: more)
      (spelled : SpelledMembers member true more members rest) :
      WrittenWith nested cs (.obj members) rest

/-- A value as it stands in a text, with at most `depth` brackets open at a time. -/
def Written : Nat → Spelling
  | 0 => WrittenWith none
  | depth + 1 => WrittenWith (some (Written depth))

/-- The whole text is the value as it stands. -/
def IsTranscript (text : String) (written : Json) : Prop :=
  ∃ rest, Written maxDepth text.toList written rest ∧ skipSpace rest = []

/-- However the text is taken apart, no object in it has two members of one name. -/
def NamesOnce (text : String) : Prop :=
  ∀ written, IsTranscript text written → written.WellFormed

variable {nested item item' : Spelling} {depth : Nat} {first : Bool} {cs rest rest' : List Char}
  {value value' : Json} {items items' : List Json} {members members' : List (String × Json)}

/-! ## Values that name nothing twice -/

theorem SpelledItems.mono (spelled : SpelledItems item first cs items rest)
    (each : ∀ value ∈ items, ∀ {cs rest}, item cs value rest → item' cs value rest) :
    SpelledItems item' first cs items rest := by
  induction spelled with
  | closed place => exact .closed place
  | next place spelled _ ih =>
      obtain ⟨here, others⟩ := List.forall_mem_cons.mp each
      exact .next place (here spelled) (ih others)

theorem SpelledMembers.mono (spelled : SpelledMembers item first cs members rest)
    (each : ∀ member ∈ members, ∀ {cs rest}, item cs member.2 rest → item' cs member.2 rest) :
    SpelledMembers item' first cs members rest := by
  induction spelled with
  | closed place => exact .closed place
  | next place named colon spelled _ ih =>
      obtain ⟨here, others⟩ := List.forall_mem_cons.mp each
      exact .next place named colon (here spelled) (ih others)

theorem Spells.written (spelled : Spells depth cs value rest) : Written depth cs value rest := by
  induction depth generalizing cs value rest with
  | zero =>
      rcases spelled.forms with token | ⟨_, _, _, noneLeft, _⟩ | ⟨_, _, _, noneLeft, _⟩
      · exact .scalar token
      · cases noneLeft
      · cases noneLeft
  | succ depth ih =>
      rcases spelled.forms with token | ⟨_, _, _, oneLess, rfl, starts, spelled⟩ |
        ⟨_, _, _, oneLess, rfl, starts, spelled, _⟩
      · exact .scalar token
      · cases oneLess
        exact .array rfl starts (spelled.mono fun _ _ => ih)
      · cases oneLess
        exact .object rfl starts (spelled.mono fun _ _ => ih)

theorem Written.spells (written : Written depth cs value rest) (wellFormed : value.WellFormed) :
    Spells depth cs value rest := by
  induction depth generalizing cs value rest with
  | zero =>
      cases written with
      | scalar token => exact .scalar rfl token
      | array allowed => cases allowed
      | object allowed => cases allowed
  | succ depth ih =>
      cases written with
      | scalar token => exact .scalar rfl token
      | array allowed starts spelled =>
          cases allowed
          have each := wellFormedItems_iff.mp wellFormed
          exact .array rfl starts (spelled.mono fun item among => (ih · (each item among)))
      | object allowed starts spelled =>
          cases allowed
          obtain ⟨distinct, each⟩ := wellFormed
          rw [wellFormedMembers_iff] at each
          exact .object rfl starts (spelled.mono fun member among => (ih · (each member among)))
            distinct

/-! ## One way to take a text apart -/

/-- At most one value stands at the front of a text, and it ends in one place. -/
def Unambiguous (nested : Spelling) : Prop :=
  ∀ ⦃cs value rest value' rest'⦄, nested cs value rest → nested cs value' rest' →
    value = value' ∧ rest = rest'

theorem unambiguous_scalar : Unambiguous SpelledScalar := by
  intro cs value rest value' rest' left right
  simpa using left.readScalar.symm.trans right.readScalar

theorem SpelledItems.unique (unambiguous : Unambiguous item)
    (left : SpelledItems item first cs items rest)
    (right : SpelledItems item first cs items' rest') : items = items' ∧ rest = rest' := by
  induction left generalizing items' rest' with
  | closed place =>
      cases right with
      | closed place' =>
          cases place.symm.trans place'
          exact ⟨rfl, rfl⟩
      | next place' => cases place.symm.trans place'
  | next place spelled _ ih =>
      cases right with
      | closed place' => cases place.symm.trans place'
      | next place' spelled' others =>
          cases place.symm.trans place'
          obtain ⟨rfl, rfl⟩ := unambiguous spelled spelled'
          obtain ⟨rfl, rfl⟩ := ih others
          exact ⟨rfl, rfl⟩

theorem SpelledMembers.unique (unambiguous : Unambiguous nested)
    (left : SpelledMembers nested first cs members rest)
    (right : SpelledMembers nested first cs members' rest') :
    members = members' ∧ rest = rest' := by
  induction left generalizing members' rest' with
  | closed place =>
      cases right with
      | closed place' =>
          cases place.symm.trans place'
          exact ⟨rfl, rfl⟩
      | next place' => cases place.symm.trans place'
  | next place named colon spelled _ ih =>
      cases right with
      | closed place' => cases place.symm.trans place'
      | next place' named' colon' spelled' others =>
          cases place.symm.trans place'
          cases named.symm.trans named'
          cases colon.symm.trans colon'
          obtain ⟨rfl, rfl⟩ := unambiguous spelled spelled'
          obtain ⟨rfl, rfl⟩ := ih others
          exact ⟨rfl, rfl⟩

theorem unambiguous_writtenWith {options : Option Spelling}
    (inside : ∀ nested ∈ options, Unambiguous nested) : Unambiguous (WrittenWith options) := by
  intro cs value rest value' rest' left right
  cases left with
  | scalar token =>
      cases right with
      | scalar token' => exact unambiguous_scalar token token'
      | array _ starts => exact absurd starts (token.no_bracket _).1
      | object _ starts => exact absurd starts (token.no_bracket _).2
  | array allowed starts spelled =>
      cases right with
      | scalar token => exact absurd starts (token.no_bracket _).1
      | array allowed' starts' spelled' =>
          cases allowed.symm.trans allowed'
          cases starts.symm.trans starts'
          obtain ⟨rfl, rfl⟩ := spelled.unique (inside _ allowed) spelled'
          exact ⟨rfl, rfl⟩
      | object _ starts' => cases starts.symm.trans starts'
  | object allowed starts spelled =>
      cases right with
      | scalar token => exact absurd starts (token.no_bracket _).2
      | array _ starts' => cases starts.symm.trans starts'
      | object allowed' starts' spelled' =>
          cases allowed.symm.trans allowed'
          cases starts.symm.trans starts'
          obtain ⟨rfl, rfl⟩ := spelled.unique (inside _ allowed) spelled'
          exact ⟨rfl, rfl⟩

theorem unambiguous_written (depth : Nat) : Unambiguous (Written depth) := by
  induction depth with
  | zero => exact unambiguous_writtenWith (by simp)
  | succ depth ih => exact unambiguous_writtenWith (by simpa using ih)

theorem IsTranscript.unique {text : String} (left : IsTranscript text value)
    (right : IsTranscript text value') : value = value' := by
  obtain ⟨_, written, _⟩ := left
  obtain ⟨_, written', _⟩ := right
  exact (unambiguous_written maxDepth written written').1

/-! ## Whatever is read can be taken apart -/

theorem exists_items {reader : TextReader Json}
    (each : ∀ {cs value rest}, reader cs = .ok (value, rest) → ∃ written, item cs written rest)
    (read : readItems reader first cs = .ok (items, rest)) :
    ∃ written, SpelledItems item first cs written rest := by
  fun_induction readItems reader first cs generalizing items with
  | case1 => cases read
  | case2 first cs last place =>
      cases read
      exact ⟨[], .closed place⟩
  | case3 => cases read
  | case4 first cs here place value after taken _ ih =>
      obtain ⟨⟨others, last⟩, onward, same⟩ := Fallible.map_eq_ok.mp read
      cases same
      obtain ⟨written, spelled⟩ := each taken
      obtain ⟨behind, spelledBehind⟩ := ih onward
      exact ⟨written :: behind, .next place spelled spelledBehind⟩
  | case5 => cases read

theorem exists_members {reader : TextReader Json} {seen : List (String × Json)}
    (each : ∀ {cs value rest}, reader cs = .ok (value, rest) → ∃ written, nested cs written rest)
    (read : readMembers (readMember reader) seen first cs = .ok (members, rest)) :
    ∃ written, SpelledMembers nested first cs written rest := by
  fun_induction readMembers (readMember reader) seen first cs with
  | case1 => cases read
  | case2 _ first cs last place =>
      cases read
      exact ⟨[], .closed place⟩
  | case3 => cases read
  | case4 => cases read
  | case5 _ first cs here place name after named _ last member _ ih =>
      simp only [readMember, Fallible.bind_eq_ok] at member
      obtain ⟨start, colon, ⟨value, endOfValue⟩, taken, same⟩ := member
      cases same
      obtain ⟨written, spelled⟩ := each taken
      obtain ⟨behind, spelledBehind⟩ := ih read
      exact ⟨(String.ofList name, written) :: behind, .next place named colon spelled spelledBehind⟩
  | case6 => cases read

theorem exists_written (read : read depth cs = .ok (value, rest)) :
    ∃ written, Written depth cs written rest := by
  induction depth generalizing cs value rest with
  | zero =>
      rcases read_forms read with token | ⟨_, _, _, noneLeft, _⟩ | ⟨_, _, _, noneLeft, _⟩
      · exact ⟨value, .scalar (spelledScalar_of_readScalar token)⟩
      · cases noneLeft
      · cases noneLeft
  | succ depth ih =>
      rcases read_forms read with token | ⟨_, _, _, oneLess, rfl, starts, here⟩ |
        ⟨_, _, _, oneLess, rfl, starts, here⟩
      · exact ⟨value, .scalar (spelledScalar_of_readScalar token)⟩
      · cases oneLess
        obtain ⟨written, spelled⟩ := exists_items ih here
        exact ⟨.arr written, .array rfl starts spelled⟩
      · cases oneLess
        obtain ⟨written, spelled⟩ := exists_members ih here
        exact ⟨.obj written, .object rfl starts spelled⟩

/-- A text is a document of a value exactly when the value is read from it and no name stands twice in
    one of its objects. -/
theorem document_iff {text : String} :
    IsDocumentOf text value ↔ parse text = .ok value ∧ NamesOnce text := by
  constructor
  · intro document
    refine ⟨parse_of_document document, fun written transcript => ?_⟩
    obtain ⟨rest, spelled, blank⟩ := document
    obtain rfl := transcript.unique ⟨rest, spelled.written, blank⟩
    exact (sound_of_read spelled.read).1
  · rintro ⟨parsed, once⟩
    obtain ⟨rest, read, blank⟩ := readWhole_eq_ok.mp parsed
    obtain ⟨written, stands⟩ := exists_written read
    have spelled := stands.spells (once written ⟨rest, stands, blank⟩)
    have same : value = written := by simpa using read.symm.trans spelled.read
    exact ⟨rest, same ▸ spelled, blank⟩

end SimulationScript.Json
