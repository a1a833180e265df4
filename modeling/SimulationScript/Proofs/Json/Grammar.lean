import Mathlib.Data.List.DropRight
import SimulationScript.Json.Reader
import SimulationScript.Proofs.Json.Extent
import SimulationScript.Proofs.OrderedMap

/-! # The grammar of JSON text

Which value a text spells, said without a reader. No object may have two members of one name. Whoever
goes by the tokens and marks of the grammar finds the value, and one who skips it ends where it ends.
-/

namespace SimulationScript.Json

/-- What values texts spell at their front, and what follows the value. -/
abbrev Spelling := List Char → Json → List Char → Prop

/-- A value that is neither an array nor an object. -/
inductive SpelledScalar : List Char → Json → List Char → Prop where
  | null {cs rest} (word : expectWord ['u', 'l', 'l'] cs = .ok rest) :
      SpelledScalar ('n' :: cs) .null rest
  | true {cs rest} (word : expectWord ['r', 'u', 'e'] cs = .ok rest) :
      SpelledScalar ('t' :: cs) (.bool true) rest
  | false {cs rest} (word : expectWord ['a', 'l', 's', 'e'] cs = .ok rest) :
      SpelledScalar ('f' :: cs) (.bool false) rest
  | string {cs s rest} (read : readString cs = .ok (s, rest)) :
      SpelledScalar ('"' :: cs) (.str (String.ofList s)) rest
  | number {c cs n rest} (initial : c = '-' ∨ c.isDigit) (read : readNumber (c :: cs) = .ok (n, rest)) :
      SpelledScalar (c :: cs) (.num n) rest

/-- The items of an array up to its closing bracket. -/
inductive SpelledItems (item : Spelling) : Bool → List Char → List Json → List Char → Prop where
  | closed {first cs rest} (place : nextItem first cs = .ok (.closed rest)) :
      SpelledItems item first cs [] rest
  | next {first cs here value after values rest} (place : nextItem first cs = .ok (.next here))
      (spelled : item here value after) (others : SpelledItems item false after values rest) :
      SpelledItems item first cs (value :: values) rest

/-- The members of an object up to its closing bracket. -/
inductive SpelledMembers (nested : Spelling) :
    Bool → List Char → List (String × Json) → List Char → Prop where
  | closed {first cs rest} (place : nextName first cs = .ok (.closed rest)) :
      SpelledMembers nested first cs [] rest
  | next {first cs here name after start value last members rest}
      (place : nextName first cs = .ok (.next here)) (named : readString here = .ok (name, after))
      (colon : skipMark ':' after = .ok start) (spelled : nested start value last)
      (others : SpelledMembers nested false last members rest) :
      SpelledMembers nested first cs ((String.ofList name, value) :: members) rest

/-- A value, given the spelling of the values nested in it, if any may be. -/
inductive SpelledWith (nested : Option Spelling) : List Char → Json → List Char → Prop where
  | scalar {cs here value rest} (starts : skipSpace cs = here)
      (token : SpelledScalar here value rest) : SpelledWith nested cs value rest
  | array {item cs more items rest} (allowed : nested = some item)
      (starts : skipSpace cs = '[' :: more) (spelled : SpelledItems item true more items rest) :
      SpelledWith nested cs (.arr items) rest
  | object {member cs more members rest} (allowed : nested = some member)
      (starts : skipSpace cs = '{' :: more)
      (spelled : SpelledMembers member true more members rest)
      (distinct : Entries.Distinct members) : SpelledWith nested cs (.obj members) rest

/-- A value with at most `depth` brackets open at a time. -/
def Spells : Nat → Spelling
  | 0 => SpelledWith none
  | depth + 1 => SpelledWith (some (Spells depth))

/-- The whole text spells the value. -/
def IsDocumentOf (text : String) (value : Json) : Prop :=
  ∃ rest, Spells maxDepth text.toList value rest ∧ skipSpace rest = []

variable {nested item : Spelling} {depth : Nat} {first : Bool} {c : Char}
  {cs more rest : List Char} {value : Json} {items : List Json} {members : List (String × Json)}

theorem ne_of_number (initial : c = '-' ∨ c.isDigit) :
    ∀ d ∈ [' ', '\t', '\n', '\r', '[', '{', 'n', 't', 'f', '"'], c ≠ d := by
  rintro d hd rfl
  have never : ∀ d ∈ [' ', '\t', '\n', '\r', '[', '{', 'n', 't', 'f', '"'],
      ¬ (d = '-' ∨ d.isDigit) := by simp
  exact never c hd initial

theorem spelledScalar_of_readScalar (token : readScalar cs = .ok (value, rest)) :
    SpelledScalar cs value rest := by
  cases cs with
  | nil => cases token
  | cons c more =>
      rw [readScalar] at token
      split_ifs at token
      all_goals
        obtain ⟨result, read, same⟩ := Fallible.map_eq_ok.mp token
        cases same
        subst_vars
      · exact .null read
      · exact .true read
      · exact .false read
      · exact .string read
      · rename_i initial
        exact .number initial read

/-- The characters that scalars begin with. -/
def IsInitial (c : Char) : Prop :=
  c ∈ ['n', 't', 'f', '"', '-'] ∨ c.isDigit

instance (c : Char) : Decidable (IsInitial c) :=
  inferInstanceAs (Decidable (_ ∨ _))

theorem IsInitial.ne {d : Char} (initial : IsInitial c) (other : ¬ IsInitial d) : c ≠ d :=
  fun same => other (same ▸ initial)

theorem IsInitial.visible (initial : IsInitial c) : isSpace c = false := by
  have apart : c ≠ ' ' ∧ c ≠ '\t' ∧ c ≠ '\n' ∧ c ≠ '\r' :=
    ⟨initial.ne (by decide), initial.ne (by decide), initial.ne (by decide), initial.ne (by decide)⟩
  simp [isSpace, apart]

theorem SpelledScalar.starts (spelled : SpelledScalar cs value rest) :
    ∃ c more, cs = c :: more ∧ IsInitial c := by
  cases spelled with
  | null => exact ⟨_, _, rfl, by decide⟩
  | true => exact ⟨_, _, rfl, by decide⟩
  | false => exact ⟨_, _, rfl, by decide⟩
  | string => exact ⟨_, _, rfl, by decide⟩
  | number initial => exact ⟨_, _, rfl, initial.imp (by simp +contextual) id⟩

theorem SpelledScalar.no_bracket (spelled : SpelledScalar cs value rest) (more : List Char) :
    cs ≠ '[' :: more ∧ cs ≠ '{' :: more := by
  obtain ⟨c, after, rfl, initial⟩ := spelled.starts
  have other : c ≠ '[' ∧ c ≠ '{' := ⟨initial.ne (by decide), initial.ne (by decide)⟩
  simp [other]

/-- The three forms of a value: a scalar, an array and an object. -/
theorem Spells.forms (spelled : Spells depth cs value rest) :
    SpelledScalar (skipSpace cs) value rest ∨
      (∃ d more items, depth = d + 1 ∧ value = .arr items ∧ skipSpace cs = '[' :: more ∧
        SpelledItems (Spells d) true more items rest) ∨
      ∃ d more members, depth = d + 1 ∧ value = .obj members ∧ skipSpace cs = '{' :: more ∧
        SpelledMembers (Spells d) true more members rest ∧ Entries.Distinct members := by
  cases depth with
  | zero =>
      cases spelled with
      | scalar starts token => exact .inl (starts ▸ token)
      | array allowed => cases allowed
      | object allowed => cases allowed
  | succ d =>
      cases spelled with
      | scalar starts token => exact .inl (starts ▸ token)
      | array allowed starts spelled =>
          cases allowed
          exact .inr (.inl ⟨d, _, _, rfl, rfl, starts, spelled⟩)
      | object allowed starts spelled distinct =>
          cases allowed
          exact .inr (.inr ⟨d, _, _, rfl, rfl, starts, spelled, distinct⟩)

theorem Spells.exists_null (spelled : Spells depth cs .null rest) :
    ∃ more, skipSpace cs = 'n' :: more ∧ expectWord ['u', 'l', 'l'] more = .ok rest := by
  rcases spelled.forms with token | ⟨_, _, _, _, noNull, _⟩ | ⟨_, _, _, _, noNull, _⟩
  · generalize Json.skipSpace cs = here at token
    cases token with
    | null word => exact ⟨_, rfl, word⟩
  · cases noNull
  · cases noNull

/-- No other value begins like null. -/
theorem Spells.eq_null (spelled : Spells depth cs value rest) (starts : skipSpace cs = 'n' :: more) :
    value = .null := by
  rcases spelled.forms with token | ⟨_, _, _, _, _, other, _⟩ | ⟨_, _, _, _, _, other, _⟩
  · rw [starts] at token
    cases token with
    | null => rfl
    | number initial => simp at initial
  · simp [starts] at other
  · simp [starts] at other

theorem SpelledWith.congr {options : Option Spelling} {cs' : List Char}
    (same : Json.skipSpace cs = Json.skipSpace cs') (spelled : SpelledWith options cs value rest) :
    SpelledWith options cs' value rest := by
  cases spelled with
  | scalar starts token => exact .scalar (same ▸ starts) token
  | array allowed starts spelled => exact .array allowed (same ▸ starts) spelled
  | object allowed starts spelled distinct => exact .object allowed (same ▸ starts) spelled distinct

/-- White space in front of a value does not matter. -/
theorem Spells.congr {cs' : List Char} (same : Json.skipSpace cs = Json.skipSpace cs')
    (spelled : Spells depth cs value rest) : Spells depth cs' value rest := by
  cases depth with
  | zero => exact SpelledWith.congr same spelled
  | succ depth => exact SpelledWith.congr same spelled

theorem Spells.skipSpace (spelled : Spells depth cs value rest) :
    Spells depth (skipSpace cs) value rest :=
  spelled.congr (List.dropWhile_idempotent _ cs).symm

/-! ## What a value takes up -/

theorem SpelledScalar.length (spelled : SpelledScalar cs value rest) : rest.length < cs.length := by
  cases spelled with
  | null word => exact Nat.lt_succ_of_le (length_expectWord word)
  | true word => exact Nat.lt_succ_of_le (length_expectWord word)
  | false word => exact Nat.lt_succ_of_le (length_expectWord word)
  | string read => exact Nat.lt_succ_of_lt (quoted_of_readString read).length
  | number _ read => exact length_readNumber read

theorem SpelledItems.length (spelled : SpelledItems item first cs items rest)
    (shorter : ∀ {cs value rest}, item cs value rest → rest.length < cs.length) :
    rest.length < cs.length := by
  induction spelled with
  | closed place => exact within_nextItem place
  | next place spelled _ ih =>
      exact ih.trans ((shorter spelled).trans_le (within_nextItem place))

theorem length_member {here name after start : List Char} (place : nextName first cs = .ok (.next here))
    (named : readString here = .ok (name, after)) (colon : skipMark ':' after = .ok start) :
    start.length < cs.length :=
  (length_skipMark colon).trans
    ((quoted_of_readString named).length.trans_le (within_nextName place))

theorem SpelledMembers.length (spelled : SpelledMembers nested first cs members rest)
    (shorter : ∀ {cs value rest}, nested cs value rest → rest.length < cs.length) :
    rest.length < cs.length := by
  induction spelled with
  | closed place => exact within_nextName place
  | next place named colon spelled _ ih =>
      exact ih.trans ((shorter spelled).trans (length_member place named colon))

theorem Spells.length (spelled : Spells depth cs value rest) : rest.length < cs.length := by
  induction depth generalizing cs value rest with
  | zero =>
      rcases spelled.forms with token | ⟨_, _, _, noneLeft, _⟩ | ⟨_, _, _, noneLeft, _⟩
      · exact token.length.trans_le (length_skipSpace cs)
      · cases noneLeft
      · cases noneLeft
  | succ depth ih =>
      rcases spelled.forms with token | ⟨_, _, _, oneLess, _, starts, spelled⟩ |
        ⟨_, _, _, oneLess, _, starts, spelled, _⟩
      · exact token.length.trans_le (length_skipSpace cs)
      · cases oneLess
        exact (spelled.length ih).trans (length_of_skipSpace starts)
      · cases oneLess
        exact (spelled.length ih).trans (length_of_skipSpace starts)

/-! ## Readers -/

theorem SpelledScalar.readScalar (spelled : SpelledScalar cs value rest) :
    readScalar cs = .ok (value, rest) := by
  cases spelled with
  | null word => simp [Json.readScalar, word, Except.map]
  | true word => simp [Json.readScalar, word, Except.map]
  | false word => simp [Json.readScalar, word, Except.map]
  | string read => simp [Json.readScalar, read, Except.map]
  | number initial read =>
      have other := ne_of_number initial
      simp [Json.readScalar, other, initial, read, Except.map]

theorem readWith_scalar (readers : Option (TextReader Json))
    (spelled : SpelledScalar (skipSpace cs) value rest) :
    readWith readers cs = .ok (value, rest) := by
  obtain ⟨c, more, starts, initial⟩ := spelled.starts
  have token := spelled.readScalar
  rw [starts] at token
  simp only [readWith, starts, if_neg (initial.ne (by decide) : c ≠ '['),
    if_neg (initial.ne (by decide) : c ≠ '{'), token]

theorem SpelledItems.readItems {reader : TextReader Json}
    (spelled : SpelledItems item first cs items rest)
    (shorter : ∀ {cs value rest}, item cs value rest → rest.length < cs.length)
    (taken : ∀ {cs value rest}, item cs value rest → reader cs = .ok (value, rest)) :
    readItems reader first cs = .ok (items, rest) := by
  induction spelled with
  | closed place =>
      rw [Json.readItems]
      simp only [place]
  | next place spelled _ ih =>
      have progress := (shorter spelled).trans_le (within_nextItem place)
      rw [Json.readItems]
      simp only [place, taken spelled, if_pos progress, ih, Except.map]

/-- What a reader of members makes of those it passes is what a fold over them makes. -/
theorem SpelledMembers.readMembers {σ ε : Type} {member : String → σ → TextReader σ}
    {step : σ → String × Json → Except ε σ} (spelled : SpelledMembers nested first cs members rest)
    (shorter : ∀ {cs value rest}, nested cs value rest → rest.length < cs.length)
    (taken : ∀ {name after start value last} state, skipMark ':' after = .ok start →
      nested start value last →
        (member name state after).toOption = (step state (name, value)).toOption.map (·, last))
    (state : σ) :
    (readMembers member state first cs).toOption =
      (members.foldlM step state).toOption.map (·, rest) := by
  induction spelled generalizing state with
  | closed place =>
      rw [Json.readMembers]
      simp only [place]
      rfl
  | @next first cs here name after start value last members rest place named colon spelled _ ih =>
      have progress := (shorter spelled).trans (length_member place named colon)
      have here : (member (String.ofList name) state after).toOption =
          (step state (String.ofList name, value)).toOption.map (·, last) := taken state colon spelled
      rw [Json.readMembers, List.foldlM_cons]
      simp only [place, named]
      cases made : step state (String.ofList name, value) with
      | error cause =>
          rw [made] at here
          obtain ⟨fault, failed⟩ := Fallible.toOption_eq_none.mp here
          rw [failed]
          rfl
      | ok next =>
          rw [made] at here
          rw [Fallible.toOption_eq_some.mp here]
          simp only [if_pos progress]
          exact ih next

/-- Members of which no two have one name are read as they stand. -/
theorem SpelledMembers.readMembers_distinct {reader : TextReader Json}
    (spelled : SpelledMembers nested first cs members rest)
    (shorter : ∀ {cs value rest}, nested cs value rest → rest.length < cs.length)
    (taken : ∀ {cs value rest}, nested cs value rest → reader cs = .ok (value, rest))
    (distinct : Entries.Distinct members) :
    Json.readMembers (readMember reader) [] first cs = .ok (members, rest) := by
  let step (seen : List (String × Json)) (member : String × Json) : Except TextFault _ :=
    pure (Entries.set member.1 member.2 seen)
  have memberTaken {name : String} {after start last : List Char} {value : Json} (seen)
      (colon : skipMark ':' after = .ok start) (spelled : nested start value last) :
      (readMember reader name seen after).toOption =
        (step seen (name, value)).toOption.map (·, last) := by
    simp only [readMember, colon, taken spelled, bind, Except.bind]
    rfl
  have collected : members.foldlM step [] = .ok members := by
    rw [List.foldlM_pure]
    exact congrArg Except.ok (Entries.collect_of_distinct distinct)
  rw [← Fallible.toOption_eq_some, spelled.readMembers shorter memberTaken, collected]
  rfl

/-- The value that a text spells is the one that is read from it. -/
theorem Spells.read (spelled : Spells depth cs value rest) : read depth cs = .ok (value, rest) := by
  induction depth generalizing cs value rest with
  | zero =>
      rcases spelled.forms with token | ⟨_, _, _, noneLeft, _⟩ | ⟨_, _, _, noneLeft, _⟩
      · exact readWith_scalar none token
      · cases noneLeft
      · cases noneLeft
  | succ depth ih =>
      rcases spelled.forms with token | ⟨_, _, items, oneLess, rfl, starts, spelled⟩ |
        ⟨_, _, members, oneLess, rfl, starts, spelled, distinct⟩
      · exact readWith_scalar (some (Json.read depth)) token
      · cases oneLess
        have read := spelled.readItems Spells.length ih
        simp [Json.read, readWith, starts, read, Except.map]
      · cases oneLess
        have read := spelled.readMembers_distinct Spells.length ih distinct
        simp [Json.read, readWith, starts, read, Except.map]

theorem readWhole_eq_ok {α : Type} {reader : TextReader α} {x : α} :
    readWhole reader cs = .ok x ↔ ∃ rest, reader cs = .ok (x, rest) ∧ skipSpace rest = [] := by
  rw [readWhole, Fallible.bind_eq_ok]
  constructor
  · rintro ⟨⟨y, rest⟩, read, done⟩
    simp only [List.isEmpty_iff] at done
    split_ifs at done with blank
    cases done
    exact ⟨rest, read, blank⟩
  · rintro ⟨rest, read, blank⟩
    exact ⟨(x, rest), read, by simp [blank, pure, Except.pure]⟩

theorem parse_of_document {text : String} (document : IsDocumentOf text value) :
    parse text = .ok value := by
  obtain ⟨rest, spelled, blank⟩ := document
  exact readWhole_eq_ok.mpr ⟨rest, spelled.read, blank⟩

end SimulationScript.Json
