import SimulationScript.Proofs.Calendar.Scan
import SimulationScript.Proofs.Fallible
import SimulationScript.Proofs.Request.Inverse

/-! # Years decoded

Which JSON values are years. A year is an integer of 32 bits or a text that spells one; a text without
anything in it is year zero.
-/

namespace SimulationScript

open Text
open Date (Numeral)

variable {n : Nat} {cs : List Char} {word : UInt32}

/-! ## Numerals and words -/

/-- The sign that may stand before a numeral. -/
def optionalPlus : List (List Char) := [[], ['+']]

theorem mem_optionalPlus {plus : List Char} : plus ∈ optionalPlus ↔ plus = [] ∨ plus = ['+'] := by
  simp [optionalPlus]

theorem digits?_eq_some_iff {digits : List Char} :
    (if digits.isEmpty || !digits.all Char.isDigit then none else some (numeralValue digits)) = some n ↔
      Numeral n digits := by
  rw [Option.ite_none_left_eq_some, Option.some.injEq]
  constructor
  · rintro ⟨accepted, value⟩
    simp only [Bool.or_eq_true, Bool.not_eq_true', List.isEmpty_iff, not_or, Bool.not_eq_false,
      List.all_eq_true] at accepted
    exact ⟨accepted.1, accepted.2, value⟩
  · intro numeral
    exact ⟨by simpa using ⟨numeral.nonempty, numeral.all⟩, numeral.value⟩

theorem Text.natural?_eq_some_iff :
    natural? cs = some n ↔ ∃ plus ∈ optionalPlus, ∃ digits, Numeral n digits ∧ cs = plus ++ digits := by
  unfold natural?
  dsimp only
  rw [digits?_eq_some_iff]
  split
  case h_1 rest =>
      constructor
      · intro numeral
        exact ⟨['+'], mem_optionalPlus.mpr (.inr rfl), rest, numeral, rfl⟩
      · rintro ⟨plus, among, digits, numeral, split⟩
        rcases mem_optionalPlus.mp among with rfl | rfl
        · -- a plus sign is no digit
          have sign : '+' ∈ [] ++ digits := split ▸ List.mem_cons_self
          exact absurd (numeral.all _ sign) (by decide)
        · cases split
          exact numeral
  case h_2 unsigned =>
      constructor
      · intro numeral
        exact ⟨[], mem_optionalPlus.mpr (.inl rfl), cs, numeral, rfl⟩
      · rintro ⟨plus, among, digits, numeral, rfl⟩
        rcases mem_optionalPlus.mp among with rfl | rfl
        · exact numeral
        · exact absurd rfl (unsigned digits)

theorem natural32?_eq_some_iff {n : Int} : natural32? n = some word ↔ n = word.toNat := by
  constructor
  · intro small
    simp only [natural32?, Option.ite_none_right_eq_some, Option.some.injEq] at small
    obtain ⟨⟨natural, fits⟩, rfl⟩ := small
    rw [UInt32.toNat_ofNat']
    omega
  · rintro rfl
    exact natural32?_toNat word

namespace Year

/-! ## Texts -/

/-- A text that spells a year: blanks only for year zero, or a decimal numeral behind at most one plus
    sign, with blanks around it. Leading zeros do not matter. -/
inductive Spelling : Nat → List Char → Prop where
  | blank {cs : List Char} : (∀ c ∈ cs, isBlank c) → Spelling 0 cs
  | numeral {n : Nat} {front plus digits back : List Char} : (∀ c ∈ front, isBlank c) →
      plus ∈ optionalPlus → Numeral n digits → (∀ c ∈ back, isBlank c) →
      Spelling n (front ++ (plus ++ digits) ++ back)

theorem trim_of_blank (blank : ∀ c ∈ cs, isBlank c) : trim cs = [] := by
  have skipped : skipBlanks cs = [] := List.dropWhile_eq_nil_iff.mpr blank
  rw [trim, skipped]
  rfl

theorem trim_numeral {front plus digits back : List Char} (blankFront : ∀ c ∈ front, isBlank c)
    (sign : plus ∈ optionalPlus) (numeral : Numeral n digits) (blankBack : ∀ c ∈ back, isBlank c) :
    trim (front ++ (plus ++ digits) ++ back) = plus ++ digits := by
  refine trim_between ?starts (numeral.ends.append plus) blankFront blankBack
  rcases mem_optionalPlus.mp sign with rfl | rfl
  · exact numeral.starts
  · exact ⟨'+', rfl, by decide⟩

theorem ofText?_eq_some_iff {year : Year} :
    ofText? cs = some year ↔ Spelling year.value.toNat cs := by
  constructor
  · intro read
    obtain ⟨front, back, split, blankFront, blankBack⟩ := exists_trim cs
    unfold ofText? at read
    dsimp only at read
    split at read
    case isTrue nothing =>
        cases read
        rw [split, List.isEmpty_iff.mp nothing, List.append_nil, UInt32.toNat_zero]
        exact .blank fun c hc => (List.mem_append.mp hc).elim (blankFront c) (blankBack c)
    case isFalse something =>
        obtain ⟨n, natural, small⟩ := Option.bind_eq_some_iff.mp read
        obtain ⟨word, fits, rfl⟩ := Option.map_eq_some_iff.mp small
        obtain ⟨plus, sign, digits, numeral, trimmed⟩ := natural?_eq_some_iff.mp natural
        have value : n = word.toNat := by exact_mod_cast natural32?_eq_some_iff.mp fits
        rw [split, trimmed]
        exact .numeral blankFront sign (value ▸ numeral) blankBack
  · intro spelled
    generalize value : year.value.toNat = n at spelled
    cases spelled with
    | blank blank =>
        have zero : year.value = 0 := UInt32.toNat_inj.mp (value.trans UInt32.toNat_zero.symm)
        simp [ofText?, trim_of_blank blank, ← zero]
    | @numeral _ front plus digits back blankFront sign numeral blankBack =>
        have trimmed := trim_numeral blankFront sign numeral blankBack
        have natural := natural?_eq_some_iff.mpr ⟨_, sign, _, numeral, rfl⟩
        have fits : natural32? n = some year.value := natural32?_eq_some_iff.mpr (by omega)
        have something : ¬ (plus ++ digits).isEmpty := by simp [numeral.nonempty]
        unfold ofText?
        dsimp only
        rw [trimmed, if_neg something, natural, Option.bind_some, fits]
        rfl

/-! ## Values -/

/-- A JSON value stands for the year `n`. -/
inductive StandsFor : Json → Nat → Prop where
  | integer {n : Nat} {isWord : IsWord n} : n ≤ 4294967295 → StandsFor (.num (.integer n isWord)) n
  | text {n : Nat} {s : String} : n ≤ 4294967295 → Spelling n s.toList → StandsFor (.str s) n

theorem StandsFor.bound {value : Json} (stands : StandsFor value n) : n ≤ 4294967295 := by
  cases stands <;> assumption

theorem toNat_le (year : Year) : year.value.toNat ≤ 4294967295 :=
  Nat.le_of_lt_succ year.value.toNat_lt

theorem exists_year (bound : n ≤ 4294967295) : ∃ year : Year, year.value.toNat = n := by
  refine ⟨⟨UInt32.ofNat n⟩, ?_⟩
  rw [UInt32.toNat_ofNat']
  omega

/-- The year in a JSON value, without the reason why there is none. -/
def inJson? : Json → Option Year
  | .num (.integer n _) => (natural32? n).map Year.mk
  | .str s => ofText? s.toList
  | _ => none

/-- The error for a value that is no year. -/
def refusal : Json → DecodeError
  | .str s => .invalidYear s
  | _ => .noAlternative "Raw"

theorem ofJson_eq_elim (value : Json) :
    decoder.ofJson value = (inJson? value).elim (.error (refusal value)) .ok := by
  rw [ofJson_decoder]
  cases value with
  | num n =>
      cases n with
      | integer n isWord => cases read : natural32? n <;> simp [ofJson, inJson?, refusal, read]
      | float => rfl
  | str s => cases read : ofText? s.toList <;> simp [ofJson, inJson?, refusal, read]
  | _ => rfl

theorem inJson?_eq_some_iff {value : Json} {year : Year} :
    inJson? value = some year ↔ StandsFor value year.value.toNat := by
  constructor
  · intro read
    cases value with
    | num n =>
        cases n with
        | integer n isWord =>
            obtain ⟨word, small, rfl⟩ := Option.map_eq_some_iff.mp read
            obtain rfl := natural32?_eq_some_iff.mp small
            exact .integer (toNat_le ⟨word⟩)
        | float => cases read
    | str s => exact .text year.toNat_le (ofText?_eq_some_iff.mp read)
    | _ => cases read
  · intro stands
    generalize same : year.value.toNat = n at stands
    cases stands with
    | integer =>
        have small : natural32? n = some year.value := natural32?_eq_some_iff.mpr (by omega)
        simp [inJson?, small]
    | text _ spelling => exact ofText?_eq_some_iff.mpr (same ▸ spelling)

theorem inJson?_eq_none_iff {value : Json} : inJson? value = none ↔ ∀ n, ¬ StandsFor value n := by
  constructor
  · intro noneThere n stands
    obtain ⟨year, rfl⟩ := exists_year stands.bound
    rw [inJson?_eq_some_iff.mpr stands] at noneThere
    cases noneThere
  · intro noneMeant
    cases read : inJson? value with
    | none => rfl
    | some year => exact absurd (inJson?_eq_some_iff.mp read) (noneMeant _)

theorem ofJson_eq_ok_iff {value : Json} {year : Year} :
    decoder.ofJson value = .ok year ↔ StandsFor value year.value.toNat := by
  rw [ofJson_eq_elim, ← inJson?_eq_some_iff]
  cases inJson? value <;> simp

theorem ofJson_eq_error_iff {value : Json} {cause : DecodeError} :
    decoder.ofJson value = .error cause ↔ (∀ n, ¬ StandsFor value n) ∧ cause = refusal value := by
  rw [ofJson_eq_elim, ← inJson?_eq_none_iff]
  cases inJson? value <;> simp [@eq_comm _ cause]

theorem spelling_text (year : Year) : Spelling year.value.toNat year.text.toList := by
  have digits : Numeral year.value.toNat (Text.numeral year.value.toNat) :=
    ⟨numeral_ne_nil _, fun _ => isDigit_of_mem_numeral, numeralValue_numeral _⟩
  have unsigned : [] ∈ optionalPlus := mem_optionalPlus.mpr (.inl rfl)
  have whole : Spelling year.value.toNat ([] ++ ([] ++ Text.numeral year.value.toNat) ++ []) :=
    .numeral (by simp) unsigned digits (by simp)
  simpa [text] using whole

/-- A JSON value is decoded as the year `n` exactly when it stands for it, and every other value is
    refused, a text with all its blanks. So each year can be given as a text and as a number. -/
theorem decodes_what_stands_for_a_year (value : Json) :
    (∀ n, (∃ year, decoder.ofJson value = .ok year ∧ year.value.toNat = n) ↔ StandsFor value n) ∧
      (∀ cause, decoder.ofJson value = .error cause ↔
        (∀ n, ¬ StandsFor value n) ∧ cause = refusal value) ∧
      (∀ s, (refusal (.str s)).message = "invalid year '" ++ s ++ "'") ∧
      ∀ year : Year, decoder.ofJson (.str year.text) = .ok year ∧
        decoder.ofJson (.num (.ofUInt32 year.value)) = .ok year := by
  refine ⟨fun n => ⟨?decoded, ?stands⟩, fun cause => ofJson_eq_error_iff, fun s => rfl, fun year => ?_⟩
  case decoded =>
    rintro ⟨year, decoded, rfl⟩
    exact ofJson_eq_ok_iff.mp decoded
  case stands =>
    intro stands
    obtain ⟨year, rfl⟩ := exists_year stands.bound
    exact ⟨year, ofJson_eq_ok_iff.mpr stands, rfl⟩
  · exact ⟨ofJson_eq_ok_iff.mpr (.text year.toNat_le (spelling_text year)), ofJson_toJson year⟩

example : decoder.ofJson (.str "\u3000+0002024\n") = .ok ⟨2024⟩ := by decide

end Year

end SimulationScript
