import SimulationScript.Proofs.Json.Grammar

/-! # Values skipped

Whatever a text spells is skipped to its end, with any brackets open around it.
-/

namespace SimulationScript.Json

variable {nested item : Spelling} {depth : Nat} {first : Bool} {cs more rest : List Char}
  {value : Json} {items : List Json} {members : List (String × Json)}

/-- Skipping goes on behind a token or a bracket at the front of the text until it comes to `rest`,
    inside of whatever brackets are open. -/
def SkipsTo (cs rest : List Char) : Prop :=
  ∃ opened after, skipOpening cs = .ok (opened, after) ∧ after.length < cs.length ∧
    ∀ outer, skipBrackets (opened.toList ++ outer) opened.isSome after = skipBrackets outer false rest

theorem SkipsTo.skipValue (skips : SkipsTo cs rest) : skipValue cs = .ok rest := by
  obtain ⟨opened, after, opens, _, onward⟩ := skips
  have outermost := onward []
  rw [List.append_nil, skipBrackets.eq_def [] false rest] at outermost
  cases opened with
  | none =>
      rw [Option.toList_none, skipBrackets] at outermost
      simpa only [Json.skipValue, opens] using outermost
  | some bracket =>
      simp only [Json.skipValue, opens]
      exact outermost

/-- One step into an array or object in which the next value is skipped. -/
theorem skipBrackets_next {bracket : Bracket} {here : List Char} (outer : List Bracket)
    (place : skipToValue bracket first cs = .ok (.next here)) (within : here.length ≤ cs.length)
    (skips : SkipsTo here rest) :
    skipBrackets (bracket :: outer) first cs = skipBrackets (bracket :: outer) false rest := by
  obtain ⟨opened, after, opens, taken, onward⟩ := skips
  rw [← onward (bracket :: outer), skipBrackets]
  simp only [place, opens, if_pos (taken.trans_le within)]
  cases opened with
  | none => rfl
  | some inner => rfl

theorem skipBrackets_closed {bracket : Bracket} (outer : List Bracket)
    (place : skipToValue bracket first cs = .ok (.closed rest)) (within : rest.length < cs.length) :
    skipBrackets (bracket :: outer) first cs = skipBrackets outer false rest := by
  rw [skipBrackets]
  simp only [place, if_pos within]

theorem SpelledItems.skipBrackets (spelled : SpelledItems item first cs items rest)
    (skips : ∀ {cs value rest}, item cs value rest → SkipsTo cs rest) (outer : List Bracket) :
    skipBrackets (.array :: outer) first cs = skipBrackets outer false rest := by
  induction spelled with
  | closed place => exact skipBrackets_closed outer place (within_nextItem place)
  | next place spelled _ ih =>
      have place' : skipToValue .array _ _ = .ok (.next _) := place
      rw [skipBrackets_next outer place' (within_nextItem place) (skips spelled), ih]

theorem skipToValue_closed (place : nextName first cs = .ok (.closed rest)) :
    skipToValue .object first cs = .ok (.closed rest) := by
  simp only [skipToValue, place]

theorem skipToValue_member {here name after start : List Char}
    (place : nextName first cs = .ok (.next here)) (named : readString here = .ok (name, after))
    (colon : skipMark ':' after = .ok start) : skipToValue .object first cs = .ok (.next start) := by
  simp only [skipToValue, place, (quoted_of_readString named).skipString, colon, bind, Except.bind,
    pure, Except.pure]

theorem SpelledMembers.skipBrackets (spelled : SpelledMembers nested first cs members rest)
    (skips : ∀ {cs value rest}, nested cs value rest → SkipsTo cs rest) (outer : List Bracket) :
    skipBrackets (.object :: outer) first cs = skipBrackets outer false rest := by
  induction spelled with
  | closed place => exact skipBrackets_closed outer (skipToValue_closed place) (within_nextName place)
  | next place named colon spelled _ ih =>
      have within := Nat.le_of_lt (length_member place named colon)
      rw [skipBrackets_next outer (skipToValue_member place named colon) within (skips spelled), ih]

theorem skipNumber_of_readNumber {n : Number} (read : readNumber cs = .ok (n, rest)) :
    skipNumber cs = .ok rest := by
  obtain ⟨⟨token, last⟩, scanned, valued⟩ := Fallible.bind_eq_ok.mp read
  simp only at valued
  split at valued
  · cases valued
    simp only [skipNumber, scanned]
  · cases valued

theorem SpelledScalar.skipOpening (spelled : SpelledScalar (skipSpace cs) value rest) :
    skipOpening cs = .ok (none, rest) := by
  unfold Json.skipOpening
  generalize skipSpace cs = here at spelled
  cases spelled with
  | null word => simp [word, Except.map]
  | true word => simp [word, Except.map]
  | false word => simp [word, Except.map]
  | string read => simp [(quoted_of_readString read).skipString, Except.map]
  | number initial read =>
      have other := ne_of_number initial
      simp [other, initial, skipNumber_of_readNumber read, Except.map]

theorem SpelledScalar.skipsTo (spelled : SpelledScalar (skipSpace cs) value rest) :
    SkipsTo cs rest :=
  ⟨none, rest, spelled.skipOpening, spelled.length.trans_le (length_skipSpace cs), fun _ => rfl⟩

theorem Spells.skipsTo (spelled : Spells depth cs value rest) : SkipsTo cs rest := by
  induction depth generalizing cs value rest with
  | zero =>
      rcases spelled.forms with token | ⟨_, _, _, noneLeft, _⟩ | ⟨_, _, _, noneLeft, _⟩
      · exact token.skipsTo
      · cases noneLeft
      · cases noneLeft
  | succ depth ih =>
      rcases spelled.forms with token | ⟨_, _, items, oneLess, rfl, starts, spelled⟩ |
        ⟨_, _, members, oneLess, rfl, starts, spelled, distinct⟩
      · exact token.skipsTo
      · cases oneLess
        exact ⟨some .array, _, by simp [skipOpening, starts], length_of_skipSpace starts,
          spelled.skipBrackets ih⟩
      · cases oneLess
        exact ⟨some .object, _, by simp [skipOpening, starts], length_of_skipSpace starts,
          spelled.skipBrackets ih⟩

end SimulationScript.Json
