import SimulationScript.Decoding.Record
import SimulationScript.Proofs.Json.Skipping

/-! # One value, read in two ways

A decoder takes the same result straight off a text as from the value that the text spells, or takes
none from either. Only the errors differ.
-/

namespace SimulationScript

open Json

variable {α σ : Type}

/-- A result off a text is that from a value, together with what follows the value. -/
def Matches (off : Except TextFault (α × List Char)) (whole : Except DecodeError α)
    (rest : List Char) : Prop :=
  off.toOption = whole.toOption.map (·, rest)

theorem Matches.eq_ok_iff {off : Except TextFault (α × List Char)} {whole : Except DecodeError α}
    {rest last : List Char} {x : α} (same : Matches off whole rest) :
    off = .ok (x, last) ↔ whole = .ok x ∧ last = rest := by
  rw [← Fallible.toOption_eq_some, same]
  cases whole <;> simp [@eq_comm _ last]

theorem Matches.map {β : Type} {off : Except TextFault (α × List Char)} {whole : Except DecodeError α}
    {rest : List Char} (same : Matches off whole rest) (f : α → β) :
    Matches (off.map fun (x, rest) => (f x, rest)) (whole.map f) rest := by
  rw [Matches] at same ⊢
  rw [Fallible.toOption_map, Fallible.toOption_map, same, Option.map_map, Option.map_map]
  rfl

theorem Matches.bind {β : Type} {off : Except TextFault (α × List Char)}
    {whole : Except DecodeError α} {middle rest : List Char} {f : α → Except DecodeError β}
    {g : α × List Char → Except TextFault (β × List Char)} (same : Matches off whole middle)
    (next : ∀ x, Matches (g (x, middle)) (f x) rest) : Matches (off >>= g) (whole >>= f) rest := by
  rw [Matches] at same ⊢
  rw [Fallible.toOption_bind, Fallible.toOption_bind, same]
  cases whole with
  | error => rfl
  | ok x => exact next x

namespace Decoder

variable {decoder : Decoder α}

/-- Both ways of a decoder come to one result. -/
def Agrees (decoder : Decoder α) : Prop :=
  ∀ ⦃depth cs value rest⦄, Spells depth cs value rest →
    Matches (decoder.ofText depth cs) (decoder.ofJson value) rest

theorem matches_refused (result : Except DecodeError α) (rest : List Char) :
    Matches (refused result rest) result rest := by
  cases result <;> rfl

theorem agrees_scalar {decode : Json → Except DecodeError α}
    (noArray : ∀ items, (decode (.arr items)).toOption = none)
    (noObject : ∀ members, (decode (.obj members)).toOption = none) : (scalar decode).Agrees := by
  intro depth cs value rest spelled
  rcases spelled.forms with token | ⟨d, more, items, rfl, rfl, starts, _⟩ |
    ⟨d, more, members, rfl, rfl, starts, _⟩
  · obtain ⟨c, more, starts, initial⟩ := token.starts
    have read := token.readScalar
    rw [starts] at read
    have noBracket : ¬ (c = '[' ∨ c = '{') := by
      rintro (rfl | rfl)
      · exact absurd initial (by decide)
      · exact absurd initial (by decide)
    simp only [scalar, starts, if_neg noBracket, read]
    exact matches_refused (decode value) rest
  · simp [Matches, scalar, starts, noArray]
  · simp [Matches, scalar, starts, noObject]

theorem agrees_buffered (decode : Json → Except DecodeError α) : (buffered decode).Agrees := by
  intro depth cs value rest spelled
  simp only [buffered, spelled.read]
  exact matches_refused (decode value) rest

theorem agrees_any : any.Agrees :=
  agrees_buffered .ok

theorem agrees_text : text.Agrees :=
  agrees_scalar (fun _ => rfl) fun _ => rfl

theorem agrees_flag : flag.Agrees :=
  agrees_scalar (fun _ => rfl) fun _ => rfl

theorem agrees_unit : unit.Agrees :=
  agrees_scalar (fun _ => rfl) fun _ => rfl

theorem ofJson_nullable {value : Json} (noNull : value ≠ .null) :
    (nullable decoder).ofJson value = (decoder.ofJson value).map some := by
  simp only [nullable]

theorem agrees_nullable (agrees : decoder.Agrees) : (nullable decoder).Agrees := by
  intro depth cs value rest spelled
  by_cases null : value = .null
  · subst null
    obtain ⟨more, starts, word⟩ := spelled.exists_null
    simp [Matches, nullable, starts, word, Except.map]
  · have off : (nullable decoder).ofText depth cs =
        (decoder.ofText depth (skipSpace cs)).map fun (x, rest) => (some x, rest) := by
      simp only [nullable]
      split
      case h_1 more starts => exact absurd (spelled.eq_null starts) null
      case h_2 => rfl
    rw [off, ofJson_nullable null]
    exact (agrees spelled.skipSpace).map some

theorem agrees_map (agrees : decoder.Agrees) : (map decoder).Agrees := by
  intro depth cs value rest spelled
  rcases spelled.forms with token | ⟨d, more, items, rfl, rfl, starts, _⟩ |
    ⟨d, more, members, rfl, rfl, starts, spelled, _⟩
  · have noMap : ((map decoder).ofJson value).toOption = none := by
      generalize skipSpace cs = here at token
      cases token <;> rfl
    have noBrace : ((map decoder).ofText depth cs).toOption = none := by
      simp only [map]
      split
      case h_1 more opens => exact absurd opens (token.no_bracket more).2
      case h_2 => rfl
    rw [Matches, noMap, noBrace]
    rfl
  · simp [Matches, map, starts]
  · simp only [map, starts]
    refine spelled.readMembers Spells.length ?_ OrderedMap.empty
    intro name after start value last entries colon spelled
    have entry : readEntry (decoder.ofText d) name entries after =
        (decoder.ofText d start).map fun (x, rest) => (entries.set name x, rest) := by
      simp only [readEntry, colon, bind, Except.bind]
      cases decoder.ofText d start <;> rfl
    rw [entry]
    exact (agrees spelled).map (entries.set name)

/-- A document of a value is read as what the value is read as. -/
theorem Agrees.ofDocument_iff (agrees : decoder.Agrees) {text : String} {value : Json}
    (document : IsDocumentOf text value) (x : α) :
    decoder.ofDocument text = .ok x ↔ decoder.ofJson value = .ok x := by
  obtain ⟨rest, spelled, blank⟩ := document
  simp only [ofDocument, readWhole_eq_ok, (agrees spelled).eq_ok_iff]
  constructor
  · rintro ⟨_, ⟨read, _⟩, _⟩
    exact read
  · intro read
    exact ⟨rest, ⟨read, rfl⟩, blank⟩

end Decoder

/-! ## Records -/

/-- Both ways of a field make one draft of another. -/
def Field.Agrees (field : Field σ) : Prop :=
  ∀ ⦃depth cs value rest⦄, Spells depth cs value rest →
    ∀ draft, Matches (field.ofText depth draft cs) (field.ofJson draft value) rest

theorem Field.agrees_of {decoder : Decoder α} (agrees : decoder.Agrees) (name : String)
    (aliases : List String) (required : Bool) (get : σ → Option α) (put : σ → α → σ) :
    (Field.of name aliases required get put decoder).Agrees :=
  fun _ _ _ _ spelled draft => (agrees spelled).map (put draft)

namespace RecordType

variable {type : RecordType σ α} {depth : Nat} {first : Bool} {cs rest : List Char} {value : Json}
  {items : List Json}

theorem matches_readMember (fields : ∀ field ∈ type.fields, field.Agrees) {name : String}
    {after start : List Char} (draft : σ) (colon : skipMark ':' after = .ok start)
    (spelled : Spells depth start value rest) :
    Matches (type.readMember depth name draft after) (type.setMember draft (name, value)) rest := by
  unfold readMember setMember
  cases known : type.field? name with
  | none =>
      simp only [colon, spelled.skipsTo.skipValue, bind, Except.bind, pure, Except.pure]
      rfl
  | some field =>
      simp only [colon, bind, Except.bind]
      split
      · rfl
      · exact fields field (List.mem_of_find?_eq_some known) spelled draft

theorem toOption_setItems_nil (fields : List (Field σ)) (index : Nat) (draft : σ) :
    (type.setItems fields index draft []).toOption =
      if fields.any (·.required) then none else some draft := by
  induction fields generalizing index with
  | nil => rfl
  | cons field fields ih =>
      rw [setItems, List.any_cons]
      cases field.required with
      | true => rfl
      | false => simpa using ih (index + 1)

/-- Fields are filled from the items in a text as from the items, of which there may not be more. -/
theorem toOption_readFields (type : RecordType σ α) (fields : List (Field σ))
    (agree : ∀ field ∈ fields, field.Agrees)
    (spelled : SpelledItems (Spells depth) first cs items rest) (index : Nat) (draft : σ) :
    (readFields depth fields first draft cs).toOption =
      if fields.length < items.length then none
      else (type.setItems fields index draft items).toOption.map (·, rest) := by
  induction fields generalizing first cs items index draft with
  | nil =>
      cases spelled with
      | closed place => simp [readFields, setItems, skipBracket_of_closed place, Except.map]
      | next place => simp [readFields, skipBracket_of_next place, Except.map]
  | cons field fields ih =>
      obtain ⟨agrees, agree⟩ := List.forall_mem_cons.mp agree
      cases spelled with
      | closed place =>
          rw [readFields, toOption_setItems_nil]
          simp only [place]
          split <;> simp
      | next place spelled others =>
          rename_i here value after values
          have here := agrees spelled draft
          rw [readFields, setItems]
          simp only [place, List.length_cons, Nat.add_lt_add_iff_right]
          cases whole : field.ofJson draft value with
          | error cause =>
              rw [Matches, whole] at here
              obtain ⟨fault, off⟩ := Fallible.toOption_eq_none.mp here
              simp [off]
          | ok next =>
              rw [Matches, whole] at here
              simp only [Fallible.toOption_eq_some.mp here]
              exact ih agree others (index + 1) next

theorem agrees_decoder (fields : ∀ field ∈ type.fields, field.Agrees) : type.decoder.Agrees := by
  intro depth cs value rest spelled
  rcases spelled.forms with token | ⟨d, more, items, rfl, rfl, starts, spelled⟩ |
    ⟨d, more, members, rfl, rfl, starts, spelled, _⟩
  · have noRecord : (type.ofJson value).toOption = none := by
      generalize skipSpace cs = here at token
      cases token <;> rfl
    have noBracket : (type.ofText depth cs).toOption = none := by
      unfold ofText
      split
      case h_1 more opens => exact absurd opens (token.no_bracket more).2
      case h_2 more opens => exact absurd opens (token.no_bracket more).1
      case h_3 => rfl
    rw [Matches, decoder, noRecord, noBracket]
    rfl
  · have filled := toOption_readFields type type.fields fields spelled 0 type.blank
    by_cases long : type.fields.length < items.length
    · rw [if_pos long] at filled
      obtain ⟨fault, off⟩ := Fallible.toOption_eq_none.mp filled
      have noRecord : (type.ofJson (.arr items)).toOption = none := by
        rw [ofJson, Fallible.toOption_bind]
        simp only [if_pos long]
        cases type.setItems type.fields 0 type.blank items <;> rfl
      rw [Matches, decoder, noRecord]
      simp only [ofText, starts, off]
      rfl
    · rw [if_neg long] at filled
      simp only [decoder, ofText, starts, ofJson]
      refine Matches.bind filled fun draft => ?_
      rw [if_neg long]
      exact Decoder.matches_refused (type.build draft) rest
  · have filled : Matches (readMembers (type.readMember d) type.blank true more)
        (members.foldlM type.setMember type.blank) rest :=
      spelled.readMembers Spells.length
        (fun draft colon spelled => matches_readMember fields draft colon spelled) type.blank
    simp only [decoder, ofText, starts, ofJson]
    exact filled.bind fun draft => Decoder.matches_refused (type.build draft) rest

end RecordType

end SimulationScript
