import Mathlib.Data.List.DropRight
import Mathlib.Data.Option.Basic
import SimulationScript.Calendar.Endpoint
import SimulationScript.Proofs.Text.Blank
import SimulationScript.Proofs.Text.Numeral

/-! # Numbers scanned

Each scan of a number takes digits off the front of a text, and a numeral that it is fit for is what
it takes. A form of a date is a row of such scans and marks.
-/

namespace SimulationScript.Date

open Text

variable {n width : Nat} {mark c : Char} {cs rest digits : List Char} {date : Date}

/-- Decimal digits that spell a number. -/
structure Numeral (n : Nat) (digits : List Char) : Prop where
  nonempty : digits ≠ []
  all : ∀ c ∈ digits, c.isDigit
  value : numeralValue digits = n

/-- A numeral of a fixed width. -/
structure Digits (width n : Nat) (digits : List Char) : Prop extends Numeral n digits where
  length : digits.length = width

instance (n : Nat) (digits : List Char) : Decidable (Numeral n digits) :=
  decidable_of_iff (digits ≠ [] ∧ digits.all Char.isDigit ∧ numeralValue digits = n)
    ⟨fun ⟨nonempty, all, value⟩ => ⟨nonempty, List.all_eq_true.mp all, value⟩,
      fun numeral => ⟨numeral.nonempty, List.all_eq_true.mpr numeral.all, numeral.value⟩⟩

instance (width n : Nat) (digits : List Char) : Decidable (Digits width n digits) :=
  decidable_of_iff (Numeral n digits ∧ digits.length = width)
    ⟨fun ⟨numeral, length⟩ => ⟨numeral, length⟩, fun written => ⟨written.toNumeral, written.length⟩⟩

theorem not_isBlank_of_isDigit (digit : c.isDigit) : ¬ isBlank c := by
  simp only [Char.isDigit, Bool.and_eq_true, decide_eq_true_eq, ge_iff_le, UInt32.le_iff_toNat_le] at digit
  have low : 48 ≤ c.toNat := digit.1
  have high : c.toNat ≤ 57 := digit.2
  simp only [isBlank, Bool.or_eq_true, Bool.and_eq_true, decide_eq_true_eq, beq_iff_eq]
  omega

theorem Numeral.exists_cons (numeral : Numeral n digits) :
    ∃ c more, digits = c :: more ∧ c.isDigit := by
  obtain ⟨c, more, rfl⟩ := List.exists_cons_of_ne_nil numeral.nonempty
  exact ⟨c, more, rfl, numeral.all c List.mem_cons_self⟩

theorem Numeral.starts (numeral : Numeral n digits) : Starts digits := by
  obtain ⟨c, more, rfl, digit⟩ := numeral.exists_cons
  exact ⟨c, List.head?_cons, not_isBlank_of_isDigit digit⟩

theorem Numeral.ends (numeral : Numeral n digits) : Ends digits :=
  ⟨_, List.getLast?_eq_some_getLast numeral.nonempty,
    not_isBlank_of_isDigit (numeral.all _ (List.getLast_mem numeral.nonempty))⟩

theorem Numeral.skipBlanks (numeral : Numeral n digits) (rest : List Char) :
    skipBlanks (digits ++ rest) = digits ++ rest :=
  (numeral.starts.append rest).skipBlanks

theorem mark?_eq_some_iff : mark? mark cs = some rest ↔ cs = mark :: rest := by
  cases cs with
  | nil => simp [mark?]
  | cons d more => by_cases same : d = mark <;> simp [mark?, same]

theorem of?_eq_some_iff {year : Int} {month day : Nat} :
    of? year month day = some date ↔ date.year = year ∧ date.month = month ∧ date.day = day := by
  cases date with
  | mk y m d isDay =>
      simp only [of?, Option.dite_none_right_eq_some, Option.some.injEq, Date.mk.injEq]
      constructor
      · rintro ⟨_, rfl, rfl, rfl⟩
        exact ⟨rfl, rfl, rfl⟩
      · rintro ⟨rfl, rfl, rfl⟩
        exact ⟨isDay, rfl, rfl, rfl⟩

/-! ## What the scans take -/

theorem append_drop_digits (width : Nat) (cs : List Char) :
    (cs.take width).takeWhile Char.isDigit ++
      cs.drop ((cs.take width).takeWhile Char.isDigit).length = cs :=
  List.prefix_iff_eq_append.mp ((List.takeWhile_prefix _).trans (List.take_prefix width cs))

theorem upTo?_eq_some (h : upTo? width cs = some (n, rest)) :
    ∃ digits, Numeral n digits ∧ digits.length ≤ width ∧ cs = digits ++ rest := by
  simp only [upTo?] at h
  split at h
  case isTrue noneThere => cases h
  case isFalse someThere =>
      cases h
      have within : ((cs.take width).takeWhile Char.isDigit).length ≤ width :=
        (List.takeWhile_prefix _).length_le.trans (List.length_take_le width cs)
      refine ⟨_, ⟨?_, fun _ => List.mem_takeWhile_imp, rfl⟩, within, (append_drop_digits width cs).symm⟩
      simpa using someThere

theorem exactly?_eq_some (wide : 0 < width) (h : exactly? width cs = some (n, rest)) :
    ∃ digits, Digits width n digits ∧ cs = digits ++ rest := by
  simp only [exactly?] at h
  split at h
  case isTrue full =>
      cases h
      have split := append_drop_digits width cs
      rw [full] at split
      refine ⟨_, ⟨⟨?_, fun _ => List.mem_takeWhile_imp, rfl⟩, full⟩, split.symm⟩
      exact List.length_pos_iff.mp (full.symm ▸ wide)
  case isFalse short => cases h

theorem signedDigits?_eq_some (h : signedDigits? cs = some (n, rest)) :
    ∃ digits, Numeral n digits ∧ cs = digits ++ rest := by
  simp only [signedDigits?, spanDigits] at h
  by_cases noneThere : (cs.takeWhile Char.isDigit).isEmpty
  · simp [noneThere] at h
  · simp only [noneThere] at h
    cases h
    refine ⟨_, ⟨?_, fun _ => List.mem_takeWhile_imp, rfl⟩, List.takeWhile_append_dropWhile.symm⟩
    simpa using noneThere

/-- The digits among the first `width` characters are those at the front, unless more follow. -/
theorem takeWhile_take_append (numeral : Numeral n digits) (short : digits.length ≤ width)
    (ends : digits.length = width ∨ DigitsEnd rest) :
    ((digits ++ rest).take width).takeWhile Char.isDigit = digits := by
  have noneBehind : (rest.take (width - digits.length)).takeWhile Char.isDigit = [] := by
    rcases ends with full | ends
    · simp [full]
    · cases rest with
      | nil => simp
      | cons c more =>
          have noDigit : ¬ c.isDigit := ends c rfl
          cases width - digits.length <;> simp [noDigit]
  rw [List.take_append, List.take_of_length_le short, List.takeWhile_append_of_pos numeral.all,
    noneBehind, List.append_nil]

theorem upTo?_append (numeral : Numeral n digits) (short : digits.length ≤ width)
    (ends : digits.length = width ∨ DigitsEnd rest) :
    upTo? width (digits ++ rest) = some (n, rest) := by
  simp [upTo?, takeWhile_take_append numeral short ends, numeral.nonempty, numeral.value]

theorem Digits.exactly? (written : Digits width n digits) (rest : List Char) :
    exactly? width (digits ++ rest) = some (n, rest) := by
  have taken : ((digits ++ rest).take width).takeWhile Char.isDigit = digits :=
    takeWhile_take_append written.toNumeral written.length.le (.inl written.length)
  have left : (digits ++ rest).drop width = rest := List.drop_left' written.length
  simp only [Date.exactly?, taken, if_pos written.length, written.value, left]

theorem signedDigits?_append (numeral : Numeral n digits) (ends : DigitsEnd rest) :
    signedDigits? (digits ++ rest) = some (n, rest) := by
  simp [signedDigits?, spanDigits_append numeral.all ends, numeral.nonempty, numeral.value]

theorem Digits.shortNumber? (written : Digits 2 n digits) (rest : List Char) :
    shortNumber? (digits ++ rest) = some (n, rest) := by
  rw [Date.shortNumber?, written.skipBlanks,
    upTo?_append written.toNumeral written.length.le (.inl written.length)]

theorem year?_of_digit (digit : c.isDigit) (cs : List Char) :
    year? (c :: cs) = (upTo? 4 (c :: cs)).map fun (n, rest) => ((n : Int), rest) := by
  unfold year?
  rw [skipBlanks_cons (not_isBlank_of_isDigit digit)]
  split
  case h_1 sign =>
      cases sign
      exact absurd digit (by decide)
  case h_2 sign =>
      cases sign
      exact absurd digit (by decide)
  case h_3 => rfl

/-- Up to four digits are a year. -/
theorem year?_append (numeral : Numeral n digits) (short : digits.length ≤ 4)
    (ends : digits.length = 4 ∨ DigitsEnd rest) : year? (digits ++ rest) = some ((n : Int), rest) := by
  have scanned := upTo?_append numeral short ends
  obtain ⟨c, more, rfl, digit⟩ := numeral.exists_cons
  rw [List.cons_append] at scanned ⊢
  rw [year?_of_digit digit, scanned]
  rfl

theorem year?_minus (numeral : Numeral n digits) (ends : DigitsEnd rest) :
    year? ('-' :: (digits ++ rest)) = some (-(n : Int), rest) := by
  rw [year?, skipBlanks_cons (by decide)]
  simp only [signedDigits?_append numeral ends, Option.map_some]

theorem year?_plus (numeral : Numeral n digits) (ends : DigitsEnd rest) :
    year? ('+' :: (digits ++ rest)) = some ((n : Int), rest) := by
  rw [year?, skipBlanks_cons (by decide)]
  simp only [signedDigits?_append numeral ends, Option.map_some]

/-- A year as it may stand in a text, where only a sign allows for more than four digits. -/
inductive YearNumeral : Int → List Char → Prop where
  | unsigned {n : Nat} {digits : List Char} (numeral : Numeral n digits) (short : digits.length ≤ 4) :
      YearNumeral n digits
  | minus {n : Nat} {digits : List Char} (numeral : Numeral n digits) : YearNumeral (-n) ('-' :: digits)
  | plus {n : Nat} {digits : List Char} (numeral : Numeral n digits) : YearNumeral n ('+' :: digits)

theorem year?_eq_some {year : Int} (h : year? cs = some (year, rest)) :
    ∃ years, YearNumeral year years ∧ Text.skipBlanks cs = years ++ rest := by
  unfold year? at h
  split at h
  case h_1 minus =>
      obtain ⟨⟨n, left⟩, scanned, same⟩ := Option.map_eq_some_iff.mp h
      cases same
      obtain ⟨digits, numeral, rfl⟩ := signedDigits?_eq_some scanned
      exact ⟨_, .minus numeral, minus⟩
  case h_2 plus =>
      obtain ⟨⟨n, left⟩, scanned, same⟩ := Option.map_eq_some_iff.mp h
      cases same
      obtain ⟨digits, numeral, rfl⟩ := signedDigits?_eq_some scanned
      exact ⟨_, .plus numeral, plus⟩
  case h_3 unsigned =>
      obtain ⟨⟨n, left⟩, scanned, same⟩ := Option.map_eq_some_iff.mp h
      cases same
      obtain ⟨digits, numeral, short, split⟩ := upTo?_eq_some scanned
      exact ⟨_, .unsigned numeral short, split⟩

/-! ## Forms as rows of scans -/

theorem ended_eq_some_iff {made : Option Date} :
    (if cs.isEmpty then made else none) = some date ↔ cs = [] ∧ made = some date := by
  rw [Option.ite_none_right_eq_some, List.isEmpty_iff]

theorem guard_eq_some_iff {p : Prop} [Decidable p] {u : Unit} :
    (guard p : Option Unit) = some u ↔ p := by
  unfold guard
  split
  case isTrue holds => exact iff_of_true rfl holds
  case isFalse fails => exact iff_of_false (fun made => nomatch made) fails

theorem yearFirst?_eq_some_iff :
    yearFirst? mark cs = some date ↔
      ∃ cs₁ cs₂, year? cs = some (date.year, mark :: cs₁) ∧
        shortNumber? cs₁ = some (date.month, mark :: cs₂) ∧
        shortNumber? cs₂ = some (date.day, []) := by
  simp only [yearFirst?, bind, Option.bind_eq_some_iff, Prod.exists, mark?_eq_some_iff,
    ended_eq_some_iff, of?_eq_some_iff]
  constructor
  · rintro ⟨_, _, year, cs₁, rfl, _, _, month, cs₂, rfl, _, _, day, rfl, rfl, rfl, rfl⟩
    exact ⟨cs₁, cs₂, year, month, day⟩
  · rintro ⟨cs₁, cs₂, year, month, day⟩
    exact ⟨_, _, year, cs₁, rfl, _, _, month, cs₂, rfl, _, _, day, rfl, rfl, rfl, rfl⟩

theorem monthFirst?_eq_some_iff :
    monthFirst? cs = some date ↔
      ∃ cs₁ cs₂, shortNumber? cs = some (date.month, '/' :: cs₁) ∧
        shortNumber? cs₁ = some (date.day, '/' :: cs₂) ∧ year? cs₂ = some (date.year, []) := by
  simp only [monthFirst?, bind, Option.bind_eq_some_iff, Prod.exists, mark?_eq_some_iff,
    ended_eq_some_iff, of?_eq_some_iff]
  constructor
  · rintro ⟨_, _, month, cs₁, rfl, _, _, day, cs₂, rfl, _, _, year, rfl, rfl, rfl, rfl⟩
    exact ⟨cs₁, cs₂, month, day, year⟩
  · rintro ⟨cs₁, cs₂, month, day, year⟩
    exact ⟨_, _, month, cs₁, rfl, _, _, day, cs₂, rfl, _, _, year, rfl, rfl, rfl, rfl⟩

theorem bareYear?_eq_some_iff :
    bareYear? cs = some date ↔
      ∃ year : Nat, exactly? 4 cs = some (year, []) ∧
        date.year = year ∧ date.month = 1 ∧ date.day = 1 := by
  simp only [bareYear?, bind, Option.bind_eq_some_iff, Prod.exists, ended_eq_some_iff,
    of?_eq_some_iff]
  constructor
  · rintro ⟨year, _, scanned, rfl, first⟩
    exact ⟨year, scanned, first⟩
  · rintro ⟨year, scanned, first⟩
    exact ⟨year, _, scanned, rfl, first⟩

/-- The fraction of a second is skipped only behind a point. -/
theorem skipTime?_eq_some_iff :
    skipTime? cs = some rest ↔
      ∃ (hour minute second : Nat) (cs₁ cs₂ cs₃ : List Char),
        exactly? 2 cs = some (hour, ':' :: cs₁) ∧ exactly? 2 cs₁ = some (minute, ':' :: cs₂) ∧
        exactly? 2 cs₂ = some (second, cs₃) ∧ (hour ≤ 23 ∧ minute ≤ 59 ∧ second ≤ 60) ∧
        (cs₃ = rest ∧ rest.head? ≠ some '.' ∨
          ∃ n digits, cs₃ = '.' :: digits ∧ signedDigits? digits = some (n, rest)) := by
  simp only [skipTime?, bind, Option.bind_eq_some_iff, Prod.exists, mark?_eq_some_iff,
    guard_eq_some_iff]
  constructor
  · rintro ⟨hour, _, hhour, cs₁, rfl, minute, _, hminute, cs₂, rfl, second, cs₃, hsecond, _, within,
      ended⟩
    refine ⟨hour, minute, second, cs₁, cs₂, cs₃, hhour, hminute, hsecond, within, ?_⟩
    split at ended
    case h_1 digits =>
        obtain ⟨⟨n, left⟩, read, same⟩ := Option.map_eq_some_iff.mp ended
        cases same
        exact .inr ⟨n, digits, rfl, read⟩
    case h_2 noPoint =>
        cases ended
        refine .inl ⟨rfl, ?_⟩
        intro point
        obtain ⟨digits, split⟩ := List.head?_eq_some_iff.mp point
        exact noPoint digits split
  · rintro ⟨hour, minute, second, cs₁, cs₂, cs₃, hhour, hminute, hsecond, within, ended⟩
    refine ⟨hour, _, hhour, cs₁, rfl, minute, _, hminute, cs₂, rfl, second, cs₃, hsecond, (), within, ?_⟩
    rcases ended with ⟨rfl, other⟩ | ⟨n, digits, rfl, read⟩
    · split
      case h_1 => exact absurd rfl other
      case h_2 => rfl
    · simp only [read, Option.map_some]

theorem skipOffset?_eq_some_iff :
    skipOffset? (c :: cs) = some rest ↔
      (c = 'Z' ∨ c = 'z') ∧ cs = rest ∨
        (c = '+' ∨ c = '-' ∨ c = '\u2212') ∧ ∃ (hours minutes : Nat) (cs₁ : List Char),
          exactly? 2 cs = some (hours, ':' :: cs₁) ∧ exactly? 2 cs₁ = some (minutes, rest) ∧
          hours ≤ 23 ∧ minutes ≤ 59 := by
  simp only [skipOffset?]
  split
  case isTrue letter =>
      have noSign : ¬ (c = '+' ∨ c = '-' ∨ c = '\u2212') := by
        rcases letter with rfl | rfl <;> decide
      simp [letter, noSign]
  case isFalse noLetter =>
      simp only [noLetter, false_and, false_or, Option.ite_none_right_eq_some, bind,
        Option.bind_eq_some_iff, Prod.exists, mark?_eq_some_iff, guard_eq_some_iff, Option.some.injEq]
      constructor
      · rintro ⟨sign, hours, _, hhours, cs₁, rfl, minutes, cs₂, hminutes, _, within, rfl⟩
        exact ⟨sign, hours, minutes, cs₁, hhours, hminutes, within⟩
      · rintro ⟨sign, hours, minutes, cs₁, hhours, hminutes, within⟩
        exact ⟨sign, hours, _, hhours, cs₁, rfl, minutes, rest, hminutes, (), within, rfl⟩

/-- The parts of a timestamp as they are scanned one after the other. -/
theorem timestamp?_eq_some_iff :
    timestamp? cs = some date ↔
      ∃ (year : Nat) (separator : Char) (cs₁ cs₂ cs₃ cs₄ : List Char), date.year = year ∧
        exactly? 4 cs = some (year, '-' :: cs₁) ∧ exactly? 2 cs₁ = some (date.month, '-' :: cs₂) ∧
        exactly? 2 cs₂ = some (date.day, separator :: cs₃) ∧
        (separator = 'T' ∨ separator = 't' ∨ separator = ' ') ∧
        skipTime? cs₃ = some cs₄ ∧ skipOffset? cs₄ = some [] := by
  simp only [timestamp?, bind, Option.bind_eq_some_iff, Prod.exists, mark?_eq_some_iff,
    of?_eq_some_iff]
  constructor
  · rintro ⟨year, _, hyear, cs₁, rfl, _, _, hmonth, cs₂, rfl, _, rest, hday, _, ⟨sameYear, rfl, rfl⟩,
      behind⟩
    cases rest with
    | nil => cases behind
    | cons separator cs₃ =>
        simp only at behind
        split at behind
        case isFalse other => cases behind
        case isTrue between =>
            simp only [Option.bind_some, Option.bind_eq_some_iff, ended_eq_some_iff] at behind
            obtain ⟨cs₄, htime, _, hoffset, rfl, same⟩ := behind
            cases same
            exact ⟨year, separator, cs₁, cs₂, cs₃, cs₄, sameYear, hyear, hmonth, hday, between,
              htime, hoffset⟩
  · rintro ⟨year, separator, cs₁, cs₂, cs₃, cs₄, sameYear, hyear, hmonth, hday, between, htime,
      hoffset⟩
    refine ⟨year, _, hyear, cs₁, rfl, _, _, hmonth, cs₂, rfl, _, _, hday, date, ⟨sameYear, rfl, rfl⟩, ?_⟩
    simp [between, htime, hoffset]

end SimulationScript.Date
