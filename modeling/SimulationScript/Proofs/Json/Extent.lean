import SimulationScript.Json.Skipper
import SimulationScript.Proofs.Fallible

/-! # How far tokens reach

Every token takes up text, and a token that can be read is skipped to the same place.
-/

namespace SimulationScript.Json

variable {c : Char} {cs more rest : List Char} {value : Json}

/-! ## Strings -/

/-- What stands between quotes up to the closing one: escapes and plain characters. -/
inductive Quoted (last : List Char) : List Char → Prop where
  | closing : Quoted last ('"' :: last)
  | escape {c : Char} {cs after : List Char} (code : readEscape cs = .ok (c, after))
      (more : Quoted last after) : Quoted last ('\\' :: cs)
  | plain {c : Char} {cs : List Char} (noQuote : c ≠ '"') (noSlash : c ≠ '\\')
      (printable : ¬ c.toNat < 0x20) (more : Quoted last cs) : Quoted last (c :: cs)

theorem quoted_of_readString {s : List Char} (read : readString cs = .ok (s, rest)) :
    Quoted rest cs := by
  fun_induction readString cs generalizing s with
  | case1 => cases read
  | case2 =>
      cases read
      exact .closing
  | case3 => cases read
  | case4 cs c after code _ ih =>
      obtain ⟨⟨inside, last⟩, here, same⟩ := Fallible.map_eq_ok.mp read
      cases same
      exact .escape code (ih here)
  | case5 => cases read
  | case6 c cs noQuote noSlash printable ih =>
      obtain ⟨⟨inside, last⟩, here, same⟩ := Fallible.map_eq_ok.mp read
      cases same
      exact .plain noQuote noSlash printable (ih here)

theorem Quoted.length (quoted : Quoted rest cs) : rest.length < cs.length := by
  induction quoted with
  | closing => simp
  | escape code _ ih =>
      have := length_readEscape code
      simp only [List.length_cons]
      omega
  | plain _ _ _ _ ih => exact Nat.lt_succ_of_lt ih

theorem skipString_unicode {n : Nat} {digits : List Char} (hex : readHex digits = .ok (n, rest)) :
    skipString ('\\' :: 'u' :: digits) = skipString rest := by
  rw [skipString, if_neg (by decide), if_pos rfl]
  split
  case h_1 fault failed => cases hex.symm.trans failed
  case h_2 unit after succeeded =>
      cases hex.symm.trans succeeded
      rfl

theorem skipString_letter {letter : Char} (other : letter ≠ 'u')
    (known : (letterEscape? letter).isSome) :
    skipString ('\\' :: letter :: rest) = skipString rest := by
  rw [skipString, if_neg (by decide), if_pos rfl, if_pos known]
  exact other

theorem skipString_lowSurrogate {high : Nat} (read : readLowSurrogate high cs = .ok (c, rest)) :
    skipString cs = skipString rest := by
  unfold readLowSurrogate at read
  split at read
  · cases read
  · cases read
  · split at read
    · cases read
    · rename_i low after hex
      split at read
      · simp only [Except.ok.injEq, Prod.mk.injEq] at read
        rw [← read.2]
        exact skipString_unicode hex
      · cases read
  · cases read

/-- The unit after a high surrogate is an escape of its own to one who skips. -/
theorem skipString_escape (read : readEscape cs = .ok (c, rest)) :
    skipString ('\\' :: cs) = skipString rest := by
  unfold readEscape at read
  split at read
  · cases read
  · split at read
    · cases read
    · rename_i unit after hex
      split at read
      · cases read
      · rw [skipString_unicode hex]
        split at read
        · exact skipString_lowSurrogate read
        · cases read
          rfl
  · rename_i letter after other
    split at read
    · rename_i known
      cases read
      exact skipString_letter other (by simp [known])
    · cases read

/-- A string that can be read is skipped to its end. -/
theorem Quoted.skipString (quoted : Quoted rest cs) : skipString cs = .ok rest := by
  induction quoted with
  | closing =>
      rw [Json.skipString.eq_def]
      rfl
  | escape code _ ih => rw [skipString_escape code, ih]
  | plain noQuote noSlash printable _ ih =>
      rw [Json.skipString.eq_def]
      simp only [if_neg noQuote, if_neg noSlash, if_neg printable, ih]

/-! ## Words, numbers and marks -/

theorem length_skipSpace (cs : List Char) : (skipSpace cs).length ≤ cs.length :=
  (List.dropWhile_sublist _).length_le

theorem length_of_skipSpace (starts : skipSpace cs = c :: more) : more.length < cs.length := by
  have shorter := length_skipSpace cs
  rw [starts, List.length_cons] at shorter
  omega

theorem length_expectWord {word : List Char} (expected : expectWord word cs = .ok rest) :
    rest.length ≤ cs.length := by
  induction word generalizing cs with
  | nil =>
      cases expected
      exact Nat.le_refl _
  | cons w word ih =>
      cases cs with
      | nil => cases expected
      | cons c cs =>
          rw [expectWord] at expected
          split at expected
          · exact Nat.le_succ_of_le (ih expected)
          · cases expected

theorem length_scanDigits {digits : List Char} (scanned : scanDigits cs = .ok (digits, rest)) :
    rest.length < cs.length := by
  have splitOff : (Text.spanDigits cs).1 ++ (Text.spanDigits cs).2 = cs :=
    List.takeWhile_append_dropWhile
  unfold scanDigits at scanned
  split at scanned
  case h_1 => cases scanned
  case h_2 => cases scanned
  case h_3 noText noDigit span =>
      cases scanned
      rw [span] at splitOff
      have someDigit : digits ≠ [] := by
        rintro rfl
        cases rest with
        | nil => exact noText rfl rfl
        | cons c more => exact noDigit c more rfl rfl
      rw [← splitOff, List.length_append]
      exact Nat.lt_add_of_pos_left (List.length_pos_iff.mpr someDigit)

theorem length_scanWhole {digits : List Char} (scanned : scanWhole cs = .ok (digits, rest)) :
    rest.length < cs.length := by
  unfold scanWhole at scanned
  split at scanned
  · cases scanned
  · exact length_scanDigits scanned

theorem length_scanFraction {digits : List Char} (scanned : scanFraction cs = .ok (digits, rest)) :
    rest.length ≤ cs.length := by
  unfold scanFraction at scanned
  split at scanned
  · exact Nat.le_of_lt (Nat.lt_succ_of_lt (length_scanDigits scanned))
  · cases scanned
    exact Nat.le_refl _

theorem length_scanExponent {exponent : Option (Bool × List Char)}
    (scanned : scanExponent cs = .ok (exponent, rest)) : rest.length ≤ cs.length := by
  unfold scanExponent at scanned
  split at scanned
  · rename_i c more
    split at scanned
    · obtain ⟨⟨digits, last⟩, here, same⟩ := Fallible.map_eq_ok.mp scanned
      cases same
      have shorter := length_scanDigits here
      split at shorter <;> simp only [List.length_cons] at * <;> omega
    · cases scanned
      exact Nat.le_refl _
  · cases scanned
    exact Nat.le_refl _

theorem length_scanNumber {token : NumberToken} (scanned : scanNumber cs = .ok (token, rest)) :
    rest.length < cs.length := by
  unfold scanNumber at scanned
  simp only [Fallible.bind_eq_ok] at scanned
  obtain ⟨⟨whole, front⟩, hwhole, ⟨fraction, middle⟩, hfraction, ⟨exponent, last⟩, hexponent, done⟩ :=
    scanned
  cases done
  have wholeTaken : front.length < cs.length := by
    have unsigned := length_scanWhole hwhole
    split at unsigned
    · exact Nat.lt_succ_of_lt unsigned
    · exact unsigned
  have fractionTaken : middle.length ≤ front.length := length_scanFraction hfraction
  have exponentTaken : last.length ≤ middle.length := length_scanExponent hexponent
  exact Nat.lt_of_le_of_lt (Nat.le_trans exponentTaken fractionTaken) wholeTaken

theorem length_readNumber {n : Number} (read : readNumber cs = .ok (n, rest)) :
    rest.length < cs.length := by
  obtain ⟨⟨token, last⟩, scanned, valued⟩ := Fallible.bind_eq_ok.mp read
  have shorter := length_scanNumber scanned
  simp only at valued
  split at valued
  · cases valued
    exact shorter
  · cases valued

theorem length_skipMark {mark : Char} (skipped : skipMark mark cs = .ok rest) :
    rest.length < cs.length := by
  unfold skipMark at skipped
  split at skipped
  · cases skipped
  · rename_i c more starts
    split at skipped
    · cases skipped
      exact length_of_skipSpace starts
    · cases skipped

/-- A place is within a text: past some of it if it is behind a closing bracket. -/
def Place.Within (cs : List Char) : Place → Prop
  | .closed rest => rest.length < cs.length
  | .next rest => rest.length ≤ cs.length

/-- Either the closing bracket comes next, or a place in the text from which to go on. -/
theorem nextItem_forms {first : Bool} {place : Place} (found : nextItem first cs = .ok place) :
    (∃ more, skipSpace cs = ']' :: more ∧ place = .closed more) ∨
      ∃ c more here, skipSpace cs = c :: more ∧ c ≠ ']' ∧ place = .next here ∧
        here.length ≤ cs.length := by
  unfold nextItem at found
  split at found
  · cases found
  · rename_i c more starts
    have taken := length_of_skipSpace starts
    split_ifs at found with closing
    · cases found
      exact .inl ⟨more, closing ▸ starts, rfl⟩
    · cases found
      exact .inr ⟨c, more, _, starts, closing, rfl, taken⟩
    · split at found
      · cases found
      · rename_i d after starts'
        split_ifs at found
        cases found
        have later := Nat.lt_trans (length_of_skipSpace starts') taken
        exact .inr ⟨c, more, _, starts, closing, rfl, later⟩

theorem within_nextItem {first : Bool} {place : Place} (found : nextItem first cs = .ok place) :
    place.Within cs := by
  rcases nextItem_forms found with ⟨more, starts, rfl⟩ | ⟨_, _, here, _, _, rfl, within⟩
  · exact length_of_skipSpace starts
  · exact within

theorem skipBracket_of_closed {first : Bool} (place : nextItem first cs = .ok (.closed rest)) :
    skipMark ']' cs = .ok rest := by
  rcases nextItem_forms place with ⟨more, starts, same⟩ | ⟨_, _, _, _, _, other, _⟩
  · cases same
    simp [skipMark, starts]
  · cases other

theorem skipBracket_of_next {first : Bool} (place : nextItem first cs = .ok (.next rest)) :
    skipMark ']' cs = .error .malformed := by
  rcases nextItem_forms place with ⟨_, _, other⟩ | ⟨c, more, _, starts, noBracket, _⟩
  · cases other
  · simp [skipMark, starts, noBracket]

/-- Either the closing brace comes next, or a name. The first name follows its quote at once. -/
theorem nextName_forms {first : Bool} {place : Place} (found : nextName first cs = .ok place) :
    (∃ more, skipSpace cs = '}' :: more ∧ place = .closed more) ∨
      ∃ c more here, skipSpace cs = c :: more ∧ c ≠ '}' ∧ place = .next here ∧
        here.length ≤ cs.length ∧ (first → c = '"' ∧ here = more) := by
  unfold nextName at found
  split at found
  · cases found
  · rename_i c more starts
    have taken := length_of_skipSpace starts
    split_ifs at found with closing unpunctuated quoted
    · cases found
      exact .inl ⟨more, closing ▸ starts, rfl⟩
    · cases found
      exact .inr ⟨c, more, _, starts, closing, rfl, Nat.le_of_lt taken, fun _ => ⟨quoted, rfl⟩⟩
    · split at found
      · cases found
      · rename_i d after starts'
        split_ifs at found
        cases found
        have later := Nat.lt_trans (length_of_skipSpace starts') taken
        exact .inr ⟨c, more, _, starts, closing, rfl, Nat.le_of_lt later, fun isFirst =>
          absurd isFirst unpunctuated⟩

theorem within_nextName {first : Bool} {place : Place} (found : nextName first cs = .ok place) :
    place.Within cs := by
  rcases nextName_forms found with ⟨more, starts, rfl⟩ | ⟨_, _, here, _, _, rfl, within, _⟩
  · exact length_of_skipSpace starts
  · exact within

theorem skipBrace_of_closed {first : Bool} (place : nextName first cs = .ok (.closed rest)) :
    skipMark '}' cs = .ok rest := by
  rcases nextName_forms place with ⟨more, starts, same⟩ | ⟨_, _, _, _, _, other, _⟩
  · cases same
    simp [skipMark, starts]
  · cases other

theorem skipBrace_of_next {first : Bool} (place : nextName first cs = .ok (.next rest)) :
    skipMark '}' cs = .error .malformed := by
  rcases nextName_forms place with ⟨_, _, other⟩ | ⟨c, more, _, starts, noBrace, _⟩
  · cases other
  · simp [skipMark, starts, noBrace]

theorem skipQuote_of_closed {first : Bool} (place : nextName first cs = .ok (.closed rest)) :
    skipMark '"' cs = .error .malformed := by
  rcases nextName_forms place with ⟨more, starts, _⟩ | ⟨_, _, _, _, _, other, _⟩
  · simp [skipMark, starts]
  · cases other

theorem skipQuote_of_next (place : nextName true cs = .ok (.next rest)) :
    skipMark '"' cs = .ok rest := by
  rcases nextName_forms place with ⟨_, _, other⟩ | ⟨c, more, here, starts, _, same, _, named⟩
  · cases other
  · obtain ⟨rfl, rfl⟩ := named rfl
    cases same
    simp [skipMark, starts]

end SimulationScript.Json
