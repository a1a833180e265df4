import SimulationScript.Proofs.Calendar.Form
import SimulationScript.Proofs.Policy.Span

/-! # Dates as they are read

What a text must be for each form to read a date in it: which numerals stand where, and that blanks
may stand in front of the numbers of a day. An endpoint is read exactly when some form spells a day
in it that exists, and then it is read as that day.
-/

namespace SimulationScript.Calendar

variable {year : Int} {month day : Nat}

/-- The days that exist, rule by rule. Year zero is a leap year. -/
structure HasDay (year : Int) (month day : Nat) : Prop where
  supported : -262143 ≤ year ∧ year ≤ 262142
  ofYear : 1 ≤ month ∧ month ≤ 12
  ofMonth : 1 ≤ day ∧ day ≤ 31
  thirty : month ∈ [4, 6, 9, 11] → day ≤ 30
  february : month = 2 → day ≤ 29
  leap : month = 2 → day = 29 → year % 4 = 0 ∧ (year % 100 = 0 → year % 400 = 0)

theorem isLeapYear_iff :
    IsLeapYear year ↔ year % 4 = 0 ∧ (year % 100 = 0 → year % 400 = 0) := by
  unfold IsLeapYear
  omega

theorem le_daysInMonth_iff (first : 1 ≤ day) :
    day ≤ daysInMonth year month ↔
      (1 ≤ month ∧ month ≤ 12) ∧ day ≤ 31 ∧ (month ∈ [4, 6, 9, 11] → day ≤ 30) ∧
        (month = 2 → day ≤ 29) ∧ (month = 2 → day = 29 → IsLeapYear year) := by
  simp only [List.mem_cons, List.not_mem_nil, or_false]
  unfold daysInMonth
  split
  case h_8 | h_9 | h_10 | h_11 =>
      -- April, June, September and November
      simp
      omega
  case h_12 =>
      -- February
      split
      case isTrue leap =>
          simp [leap]
          omega
      case isFalse common =>
          simp [common]
          omega
  case h_13 =>
      simp only [imp_false] at *
      have noMonth : ¬ (1 ≤ month ∧ month ≤ 12) := by omega
      simp [noMonth]
      omega
  all_goals simp

theorem isDay_iff_hasDay : IsDay year month day ↔ HasDay year month day := by
  constructor
  · rintro ⟨later, earlier, first, last⟩
    obtain ⟨ofYear, short, thirty, february, leap⟩ := (le_daysInMonth_iff first).mp last
    exact ⟨⟨later, earlier⟩, ofYear, ⟨first, short⟩, thirty, february,
      fun second extra => isLeapYear_iff.mp (leap second extra)⟩
  · rintro ⟨⟨later, earlier⟩, ofYear, ⟨first, short⟩, thirty, february, leap⟩
    exact ⟨later, earlier, first, (le_daysInMonth_iff first).mpr ⟨ofYear, short, thirty, february,
      fun second extra => isLeapYear_iff.mpr (leap second extra)⟩⟩

end SimulationScript.Calendar

namespace SimulationScript.Date

open Text Calendar

variable {cs rest number years : List Char} {year : Int} {n month day : Nat} {mark : Char}
  {date : Date} {form : Form}

/-! ## Numbers behind blanks -/

/-- Blanks, of which there may be none, and a text of some kind. -/
inductive Spaced (kind : List Char → Prop) : List Char → Prop where
  | intro {gap cs : List Char} (blank : ∀ c ∈ gap, isBlank c) (core : kind cs) :
      Spaced kind (gap ++ cs)

/-- A numeral of one or two digits. -/
structure ShortNumeral (n : Nat) (digits : List Char) : Prop extends Numeral n digits where
  short : digits.length ≤ 2

theorem shortNumber?_eq_some (h : shortNumber? cs = some (n, rest)) :
    ∃ number, Spaced (ShortNumeral n) number ∧ cs = number ++ rest := by
  obtain ⟨gap, split, blank⟩ := exists_skipBlanks cs
  obtain ⟨digits, numeral, short, core⟩ := upTo?_eq_some h
  refine ⟨gap ++ digits, .intro blank ⟨numeral, short⟩, ?_⟩
  rw [List.append_assoc, ← core, ← split]

/-- A scan takes every digit it can, so no digit may follow the number. -/
theorem shortNumber?_append (spelled : Spaced (ShortNumeral n) number) (ends : DigitsEnd rest) :
    shortNumber? (number ++ rest) = some (n, rest) := by
  cases spelled with
  | intro blank numeral =>
      rw [List.append_assoc, shortNumber?, skipBlanks_append blank, numeral.skipBlanks,
        upTo?_append numeral.toNumeral numeral.short (.inr ends)]

theorem exists_yearNumeral (h : year? cs = some (year, rest)) :
    ∃ years, Spaced (YearNumeral year) years ∧ cs = years ++ rest := by
  obtain ⟨gap, split, blank⟩ := exists_skipBlanks cs
  obtain ⟨years, written, core⟩ := year?_eq_some h
  refine ⟨gap ++ years, .intro blank written, ?_⟩
  rw [List.append_assoc, ← core, ← split]

theorem YearNumeral.year? (written : YearNumeral year years) (ends : DigitsEnd rest) :
    year? (years ++ rest) = some (year, rest) := by
  cases written with
  | unsigned numeral short => exact year?_append numeral short (.inr ends)
  | minus numeral => exact year?_minus numeral ends
  | plus numeral => exact year?_plus numeral ends

theorem year?_spaced (spelled : Spaced (YearNumeral year) years) (ends : DigitsEnd rest) :
    year? (years ++ rest) = some (year, rest) := by
  cases spelled with
  | @intro gap years blank written =>
      have withoutGap : Date.year? (gap ++ (years ++ rest)) = Date.year? (years ++ rest) := by
        simp only [Date.year?, skipBlanks_append blank]
      rw [List.append_assoc, withoutGap, written.year? ends]

/-! ## Times of day and offsets -/

/-- The fraction of a second, which may be left out. -/
inductive WritesFraction : List Char → Prop where
  | none : WritesFraction []
  | point {n : Nat} {digits : List Char} (numeral : Numeral n digits) : WritesFraction ('.' :: digits)

/-- A time of day, where the second 60 is a leap second. -/
inductive WritesTime : List Char → Prop where
  | clock {hour minute second : Nat} {hours minutes seconds fraction : List Char}
      (writtenHour : Digits 2 hour hours) (hourBound : hour ≤ 23)
      (writtenMinute : Digits 2 minute minutes) (minuteBound : minute ≤ 59)
      (writtenSecond : Digits 2 second seconds) (secondBound : second ≤ 60)
      (writtenFraction : WritesFraction fraction) :
      WritesTime (hours ++ ':' :: (minutes ++ ':' :: (seconds ++ fraction)))

/-- An offset from universal time, where the sign may be the minus sign of mathematics. -/
inductive WritesOffset : List Char → Prop where
  | letter {c : Char} (zulu : c = 'Z' ∨ c = 'z') : WritesOffset [c]
  | signed {sign : Char} {hour minute : Nat} {hours minutes : List Char}
      (isSign : sign = '+' ∨ sign = '-' ∨ sign = '\u2212')
      (writtenHour : Digits 2 hour hours) (hourBound : hour ≤ 23)
      (writtenMinute : Digits 2 minute minutes) (minuteBound : minute ≤ 59) :
      WritesOffset (sign :: (hours ++ ':' :: minutes))

theorem exists_writesTime (h : skipTime? cs = some rest) :
    ∃ time, WritesTime time ∧ cs = time ++ rest := by
  obtain ⟨hour, minute, second, cs₁, cs₂, cs₃, hhour, hminute, hsecond,
    ⟨hourBound, minuteBound, secondBound⟩, ended⟩ := skipTime?_eq_some_iff.mp h
  obtain ⟨hours, writtenHour, rfl⟩ := exactly?_eq_some (by decide) hhour
  obtain ⟨minutes, writtenMinute, rfl⟩ := exactly?_eq_some (by decide) hminute
  obtain ⟨seconds, writtenSecond, rfl⟩ := exactly?_eq_some (by decide) hsecond
  have fraction : ∃ fraction, WritesFraction fraction ∧ cs₃ = fraction ++ rest := by
    rcases ended with ⟨rfl, _⟩ | ⟨n, _, rfl, read⟩
    · exact ⟨[], .none, rfl⟩
    · obtain ⟨digits, numeral, rfl⟩ := signedDigits?_eq_some read
      exact ⟨'.' :: digits, .point numeral, rfl⟩
  obtain ⟨fraction, writtenFraction, rfl⟩ := fraction
  exact ⟨_, .clock writtenHour hourBound writtenMinute minuteBound writtenSecond secondBound
    writtenFraction, by simp⟩

theorem WritesTime.skipTime? (written : WritesTime cs) (noDigit : DigitsEnd rest)
    (noPoint : rest.head? ≠ some '.') : skipTime? (cs ++ rest) = some rest := by
  cases written with
  | clock writtenHour hourBound writtenMinute minuteBound writtenSecond secondBound writtenFraction =>
      simp only [List.append_assoc, List.cons_append]
      refine skipTime?_eq_some_iff.mpr ⟨_, _, _, _, _, _, writtenHour.exactly? _,
        writtenMinute.exactly? _, writtenSecond.exactly? _, ⟨hourBound, minuteBound, secondBound⟩, ?_⟩
      cases writtenFraction with
      | none => exact .inl ⟨rfl, noPoint⟩
      | point numeral => exact .inr ⟨_, _, rfl, signedDigits?_append numeral noDigit⟩

theorem exists_writesOffset (h : skipOffset? cs = some rest) :
    ∃ offset, WritesOffset offset ∧ cs = offset ++ rest := by
  cases cs with
  | nil => cases h
  | cons c cs =>
      rcases skipOffset?_eq_some_iff.mp h with
        ⟨zulu, rfl⟩ | ⟨isSign, hour, minute, cs₁, hhour, hminute, hourBound, minuteBound⟩
      · exact ⟨[c], .letter zulu, rfl⟩
      · obtain ⟨hours, writtenHour, rfl⟩ := exactly?_eq_some (by decide) hhour
        obtain ⟨minutes, writtenMinute, rfl⟩ := exactly?_eq_some (by decide) hminute
        exact ⟨_, .signed isSign writtenHour hourBound writtenMinute minuteBound, by simp⟩

theorem WritesOffset.skipOffset? (written : WritesOffset cs) : skipOffset? cs = some [] := by
  cases written with
  | letter zulu => exact skipOffset?_eq_some_iff.mpr (.inl ⟨zulu, rfl⟩)
  | signed isSign writtenHour hourBound writtenMinute minuteBound =>
      have minuteLast := writtenMinute.exactly? []
      rw [List.append_nil] at minuteLast
      exact skipOffset?_eq_some_iff.mpr (.inr ⟨isSign, _, _, _, writtenHour.exactly? _, minuteLast,
        hourBound, minuteBound⟩)

/-- An offset is neither taken for more digits of the time before it nor for a fraction. -/
theorem WritesOffset.exists_cons (written : WritesOffset cs) :
    ∃ c more, cs = c :: more ∧ ¬ c.isDigit ∧ c ≠ '.' := by
  cases written with
  | letter zulu => exact ⟨_, _, rfl, by rcases zulu with rfl | rfl <;> decide⟩
  | signed isSign => exact ⟨_, _, rfl, by rcases isSign with rfl | rfl | rfl <;> decide⟩

theorem WritesTime.skipTime?_offset {time offset : List Char} (writtenTime : WritesTime time)
    (writtenOffset : WritesOffset offset) : Date.skipTime? (time ++ offset) = some offset := by
  obtain ⟨c, more, split, noDigit, noPoint⟩ := writtenOffset.exists_cons
  apply writtenTime.skipTime?
  · rw [split]
    exact digitsEnd_cons noDigit more
  · simpa [split] using noPoint

/-! ## Days in each form -/

/-- Year, month and day with the same mark between them. -/
inductive SpellsYearFirst (mark : Char) (year : Int) (month day : Nat) : List Char → Prop where
  | row {years months days : List Char} (spelledYear : Spaced (YearNumeral year) years)
      (spelledMonth : Spaced (ShortNumeral month) months)
      (spelledDay : Spaced (ShortNumeral day) days) :
      SpellsYearFirst mark year month day (years ++ mark :: (months ++ mark :: days))

/-- Month, day and year with slashes between them. -/
inductive SpellsMonthFirst (year : Int) (month day : Nat) : List Char → Prop where
  | row {months days years : List Char} (spelledMonth : Spaced (ShortNumeral month) months)
      (spelledDay : Spaced (ShortNumeral day) days)
      (spelledYear : Spaced (YearNumeral year) years) :
      SpellsMonthFirst year month day (months ++ '/' :: (days ++ '/' :: years))

/-- The day of a timestamp, without blanks and with every digit, and then a time and an offset. -/
inductive SpellsTimestamp (year : Int) (month day : Nat) : List Char → Prop where
  | row {n : Nat} {separator : Char} {years months days time offset : List Char}
      (sameYear : year = n) (writtenYear : Digits 4 n years)
      (writtenMonth : Digits 2 month months) (writtenDay : Digits 2 day days)
      (between : separator = 'T' ∨ separator = 't' ∨ separator = ' ')
      (writtenTime : WritesTime time) (writtenOffset : WritesOffset offset) :
      SpellsTimestamp year month day
        (years ++ '-' :: (months ++ '-' :: (days ++ separator :: (time ++ offset))))

/-- Four digits for the first of January. -/
inductive SpellsBareYear (year : Int) (month day : Nat) (cs : List Char) : Prop where
  | digits {n : Nat} (sameYear : year = n) (writtenYear : Digits 4 n cs) (january : month = 1)
      (first : day = 1) : SpellsBareYear year month day cs

/-- A text consists of the numerals of a year, a month and a day in the places that a form has for
    them, whether there is such a day or not. -/
def Form.Spells (form : Form) (year : Int) (month day : Nat) (cs : List Char) : Prop :=
  match form with
  | hyphens => SpellsYearFirst '-' year month day cs
  | slashes => SpellsYearFirst '/' year month day cs
  | monthFirst => SpellsMonthFirst year month day cs
  | timestamp => SpellsTimestamp year month day cs
  | bareYear => SpellsBareYear year month day cs

theorem yearFirst?_iff_spells (other : ¬ mark.isDigit) :
    yearFirst? mark cs = some date ↔ SpellsYearFirst mark date.year date.month date.day cs := by
  rw [yearFirst?_eq_some_iff]
  constructor
  · rintro ⟨cs₁, cs₂, hyear, hmonth, hday⟩
    obtain ⟨years, spelledYear, rfl⟩ := exists_yearNumeral hyear
    obtain ⟨months, spelledMonth, rfl⟩ := shortNumber?_eq_some hmonth
    obtain ⟨days, spelledDay, rfl⟩ := shortNumber?_eq_some hday
    rw [List.append_nil]
    exact .row spelledYear spelledMonth spelledDay
  · rintro ⟨spelledYear, spelledMonth, spelledDay⟩
    have dayLast := shortNumber?_append spelledDay digitsEnd_nil
    rw [List.append_nil] at dayLast
    exact ⟨_, _, year?_spaced spelledYear (digitsEnd_cons other _),
      shortNumber?_append spelledMonth (digitsEnd_cons other _), dayLast⟩

theorem monthFirst?_iff_spells :
    monthFirst? cs = some date ↔ SpellsMonthFirst date.year date.month date.day cs := by
  have other : ¬ '/'.isDigit := by decide
  rw [monthFirst?_eq_some_iff]
  constructor
  · rintro ⟨cs₁, cs₂, hmonth, hday, hyear⟩
    obtain ⟨months, spelledMonth, rfl⟩ := shortNumber?_eq_some hmonth
    obtain ⟨days, spelledDay, rfl⟩ := shortNumber?_eq_some hday
    obtain ⟨years, spelledYear, rfl⟩ := exists_yearNumeral hyear
    rw [List.append_nil]
    exact .row spelledMonth spelledDay spelledYear
  · rintro ⟨spelledMonth, spelledDay, spelledYear⟩
    have yearLast := year?_spaced spelledYear digitsEnd_nil
    rw [List.append_nil] at yearLast
    exact ⟨_, _, shortNumber?_append spelledMonth (digitsEnd_cons other _),
      shortNumber?_append spelledDay (digitsEnd_cons other _), yearLast⟩

theorem timestamp?_iff_spells :
    timestamp? cs = some date ↔ SpellsTimestamp date.year date.month date.day cs := by
  rw [timestamp?_eq_some_iff]
  constructor
  · rintro ⟨year, separator, cs₁, cs₂, cs₃, cs₄, sameYear, hyear, hmonth, hday, between, htime,
      hoffset⟩
    obtain ⟨years, writtenYear, rfl⟩ := exactly?_eq_some (by decide) hyear
    obtain ⟨months, writtenMonth, rfl⟩ := exactly?_eq_some (by decide) hmonth
    obtain ⟨days, writtenDay, rfl⟩ := exactly?_eq_some (by decide) hday
    obtain ⟨time, writtenTime, rfl⟩ := exists_writesTime htime
    obtain ⟨offset, writtenOffset, rfl⟩ := exists_writesOffset hoffset
    rw [List.append_nil]
    exact .row sameYear writtenYear writtenMonth writtenDay between writtenTime writtenOffset
  · rintro ⟨sameYear, writtenYear, writtenMonth, writtenDay, between, writtenTime,
      writtenOffset⟩
    exact ⟨_, _, _, _, _, _, sameYear, writtenYear.exactly? _, writtenMonth.exactly? _,
      writtenDay.exactly? _, between, writtenTime.skipTime?_offset writtenOffset,
      writtenOffset.skipOffset?⟩

theorem bareYear?_iff_spells :
    bareYear? cs = some date ↔ SpellsBareYear date.year date.month date.day cs := by
  rw [bareYear?_eq_some_iff]
  constructor
  · rintro ⟨year, scanned, sameYear, january, first⟩
    obtain ⟨digits, written, rfl⟩ := exactly?_eq_some (by decide) scanned
    rw [List.append_nil]
    exact .digits sameYear written january first
  · rintro ⟨sameYear, written, january, first⟩
    have yearOnly := written.exactly? []
    rw [List.append_nil] at yearOnly
    exact ⟨_, yearOnly, sameYear, january, first⟩

/-- A form reads a date in a text exactly when it spells the date there. -/
theorem read?_iff_spells :
    form.read? cs = some date ↔ form.Spells date.year date.month date.day cs := by
  cases form with
  | hyphens => exact yearFirst?_iff_spells (by decide)
  | slashes => exact yearFirst?_iff_spells (by decide)
  | monthFirst => exact monthFirst?_iff_spells
  | timestamp => exact timestamp?_iff_spells
  | bareYear => exact bareYear?_iff_spells

/-! ## The day of an endpoint -/

/-- A form spells a day that exists. -/
structure Form.SpellsDay (form : Form) (year : Int) (month day : Nat) (cs : List Char) : Prop where
  there : HasDay year month day
  spelled : form.Spells year month day cs

theorem spellsDay_iff :
    form.SpellsDay year month day cs ↔
      ∃ date : Date, form.read? cs = some date ∧ date.year = year ∧ date.month = month ∧
        date.day = day := by
  constructor
  · rintro ⟨there, spelled⟩
    exact ⟨⟨year, month, day, isDay_iff_hasDay.mpr there⟩, read?_iff_spells.mpr spelled, rfl, rfl, rfl⟩
  · rintro ⟨date, read, rfl, rfl, rfl⟩
    exact ⟨isDay_iff_hasDay.mp date.isDay, read?_iff_spells.mp read⟩

theorem read?_eq_none_iff :
    form.read? cs = none ↔ ∀ year month day, ¬ form.SpellsDay year month day cs := by
  constructor
  · intro unread year month day spells
    obtain ⟨date, read, _⟩ := spellsDay_iff.mp spells
    cases unread.symm.trans read
  · intro unspelled
    cases read : form.read? cs with
    | none => rfl
    | some date => exact absurd (spellsDay_iff.mpr ⟨date, read, rfl, rfl, rfl⟩) (unspelled _ _ _)

/-- The date of a text is that of a form that fits, where the form with the month in front comes after
    the other form with slashes. -/
theorem ofTrimmed?_eq_some_iff :
    ofTrimmed? cs = some date ↔
      ∃ form : Form, form.read? cs = some date ∧
        (form = .monthFirst → Form.slashes.read? cs = none) := by
  constructor
  · intro found
    rw [ofTrimmed?_eq_first?] at found
    obtain ⟨form, decides⟩ := exists_decides_of_found found
    refine ⟨form, decides.reads, ?_⟩
    -- The form that decides is the foremost that fits, and slashes with the year in front come earlier.
    rintro rfl
    by_contra fits
    exact absurd (decides.foremost .slashes (by decide) fits) (by decide)
  · rintro ⟨form, reads, unrivalled⟩
    exact ofTrimmed?_of_read reads unrivalled

theorem ofTrimmed?_eq_none_iff : ofTrimmed? cs = none ↔ ∀ form : Form, form.read? cs = none := by
  rw [ofTrimmed?_eq_first?, first?_eq_none_iff Form.mem_order]

theorem endpointDate_eq_ok_iff {raw : String} : endpointDate raw = .ok date ↔ parse? raw = some date := by
  cases read : parse? raw with
  | none => simp [Span.endpointDate_of_none read]
  | some day => simp [Span.endpointDate_of_some read]

theorem endpointDate_eq_error_iff {raw : String} {cause : ScriptError} :
    endpointDate raw = .error cause ↔ cause = .invalidDate raw ∧ parse? raw = none := by
  cases read : parse? raw with
  | none => simp [Span.endpointDate_of_none read, eq_comm]
  | some day => simp [Span.endpointDate_of_some read]

/-- An endpoint is read as a day exactly when a form spells it in the endpoint without the blanks at its
    ends and the day exists; with slashes, month, day and year are not read where year, month and day
    can be. All other endpoints are refused as they stand. -/
theorem endpoint_is_spelled_day (raw : String) :
    (∀ year month day,
      (∃ date, endpointDate raw = .ok date ∧ date.year = year ∧ date.month = month ∧
          date.day = day) ↔
        ∃ form : Form, form.SpellsDay year month day (trim raw.toList) ∧
          (form = .monthFirst →
            ∀ year' month' day', ¬ Form.slashes.SpellsDay year' month' day' (trim raw.toList))) ∧
      ∀ cause, endpointDate raw = .error cause ↔
        cause = .invalidDate raw ∧
          ∀ (form : Form) (year : Int) (month day : Nat),
            ¬ form.SpellsDay year month day (trim raw.toList) := by
  constructor
  · intro year month day
    simp only [endpointDate_eq_ok_iff, parse?, ofTrimmed?_eq_some_iff, ← read?_eq_none_iff]
    constructor
    · rintro ⟨date, ⟨form, reads, unrivalled⟩, same⟩
      exact ⟨form, spellsDay_iff.mpr ⟨date, reads, same⟩, unrivalled⟩
    · rintro ⟨form, spells, unrivalled⟩
      obtain ⟨date, reads, same⟩ := spellsDay_iff.mp spells
      exact ⟨date, ⟨form, reads, unrivalled⟩, same⟩
  · intro cause
    simp only [endpointDate_eq_error_iff, parse?, ofTrimmed?_eq_none_iff, read?_eq_none_iff]

example : endpointDate "\t+0000-\u20032- 29 " = .ok ⟨0, 2, 29, by decide⟩ := by decide

end SimulationScript.Date
