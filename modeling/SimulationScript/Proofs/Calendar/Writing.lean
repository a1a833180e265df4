import Mathlib.Data.Nat.Digits.Defs
import SimulationScript.Proofs.Calendar.Reading

/-! # Dates as they are written

How a day of the calendar is written in each form, with two digits for month and day. A day written
so is found again, with any blanks around it. Month, day and year with slashes could only be taken
for year, month and day if the year had at most two digits.
-/

namespace SimulationScript.Date

open Text

variable {cs years months days : List Char} {year : Int} {n month day : Nat}
  {date : Date} {form : Form}

/-! ## Parts of a date -/

/-- A year has four digits, or a sign and at least four digits. -/
inductive WritesYear : Int → List Char → Prop where
  | unsigned {n : Nat} {digits : List Char} (written : Digits 4 n digits) : WritesYear n digits
  | minus {n : Nat} {digits : List Char} (numeral : Numeral n digits) (four : 4 ≤ digits.length) :
      WritesYear (-n) ('-' :: digits)
  | plus {n : Nat} {digits : List Char} (numeral : Numeral n digits) (four : 4 ≤ digits.length) :
      WritesYear n ('+' :: digits)

theorem WritesYear.starts (written : WritesYear year years) : Starts years := by
  cases written with
  | unsigned written => exact written.starts
  | minus => exact ⟨'-', rfl, by decide⟩
  | plus => exact ⟨'+', rfl, by decide⟩

theorem WritesYear.ends (written : WritesYear year years) : Ends years := by
  cases written with
  | unsigned written => exact written.ends
  | minus numeral => exact numeral.ends.cons '-'
  | plus numeral => exact numeral.ends.cons '+'

theorem WritesYear.four_le (written : WritesYear year years) : 4 ≤ years.length := by
  cases written with
  | unsigned written => exact written.length.ge
  | minus _ four => exact Nat.le_succ_of_le four
  | plus _ four => exact Nat.le_succ_of_le four

theorem WritesYear.yearNumeral (written : WritesYear year years) : YearNumeral year years := by
  cases written with
  | unsigned written => exact .unsigned written.toNumeral written.length.le
  | minus numeral => exact .minus numeral
  | plus numeral => exact .plus numeral

theorem WritesOffset.ends (written : WritesOffset cs) : Ends cs := by
  cases written with
  | letter zulu =>
      rcases zulu with rfl | rfl
      · exact ⟨'Z', rfl, by decide⟩
      · exact ⟨'z', rfl, by decide⟩
  | signed _ _ _ writtenMinute => exact (((writtenMinute.ends.cons ':').append _).cons _)

/-! ## Dates in each form -/

/-- The ways to write a date in a form. Only a year of four digits has timestamps, and only the first
    day of such a year can be written as the bare year. -/
inductive Writes (date : Date) : Form → List Char → Prop where
  | hyphens {years months days : List Char} (writtenYear : WritesYear date.year years)
      (writtenMonth : Digits 2 date.month months) (writtenDay : Digits 2 date.day days) :
      Writes date .hyphens (years ++ '-' :: (months ++ '-' :: days))
  | slashes {years months days : List Char} (writtenYear : WritesYear date.year years)
      (writtenMonth : Digits 2 date.month months) (writtenDay : Digits 2 date.day days) :
      Writes date .slashes (years ++ '/' :: (months ++ '/' :: days))
  | monthFirst {years months days : List Char} (writtenMonth : Digits 2 date.month months)
      (writtenDay : Digits 2 date.day days) (writtenYear : WritesYear date.year years) :
      Writes date .monthFirst (months ++ '/' :: (days ++ '/' :: years))
  | timestamp {year : Nat} {separator : Char} {years months days time offset : List Char}
      (sameYear : date.year = year) (writtenYear : Digits 4 year years)
      (writtenMonth : Digits 2 date.month months) (writtenDay : Digits 2 date.day days)
      (between : separator = 'T' ∨ separator = 't' ∨ separator = ' ')
      (writtenTime : WritesTime time) (writtenOffset : WritesOffset offset) :
      Writes date .timestamp
        (years ++ '-' :: (months ++ '-' :: (days ++ separator :: (time ++ offset))))
  | bareYear {year : Nat} {years : List Char} (sameYear : date.year = year)
      (writtenYear : Digits 4 year years) (january : date.month = 1) (first : date.day = 1) :
      Writes date .bareYear years

theorem Writes.starts (written : Writes date form cs) : Starts cs := by
  cases written with
  | hyphens writtenYear => exact writtenYear.starts.append _
  | slashes writtenYear => exact writtenYear.starts.append _
  | monthFirst writtenMonth => exact writtenMonth.starts.append _
  | timestamp _ writtenYear => exact writtenYear.starts.append _
  | bareYear _ writtenYear => exact writtenYear.starts

theorem Writes.ends (written : Writes date form cs) : Ends cs := by
  cases written with
  | hyphens _ _ writtenDay => exact (((writtenDay.ends.cons _).append _).cons _).append _
  | slashes _ _ writtenDay => exact (((writtenDay.ends.cons _).append _).cons _).append _
  | monthFirst _ _ writtenYear => exact (((writtenYear.ends.cons _).append _).cons _).append _
  | timestamp _ _ _ _ _ _ writtenOffset =>
      exact ((((((writtenOffset.ends.append _).cons _).append _).cons _).append _).cons _).append _
  | bareYear _ writtenYear => exact writtenYear.ends

/-! ## Every day in every form that suits it -/

/-- The forms a day can be written in. -/
def Form.Suits (form : Form) (date : Date) : Prop :=
  match form with
  | hyphens | slashes | monthFirst => True
  | timestamp => 0 ≤ date.year ∧ date.year ≤ 9999
  | bareYear => 0 ≤ date.year ∧ date.year ≤ 9999 ∧ date.month = 1 ∧ date.day = 1

theorem numeral_padded (width n : Nat) : Numeral n (padded width n) where
  nonempty := by simp [padded, numeral_ne_nil]
  all := by
    intro c hc
    rcases List.mem_append.mp hc with zero | digit
    · rw [List.eq_of_mem_replicate zero]
      decide
    · exact isDigit_of_mem_numeral digit
  value := by
    rw [numeralValue, padded, Nat.ofDigitChars_append, Nat.ofDigitChars_replicate_zero, Nat.mul_zero]
    exact numeralValue_numeral n

theorem le_length_padded (width n : Nat) : width ≤ (padded width n).length := by
  simp only [padded, List.length_append, List.length_replicate]
  omega

theorem digits_padded {width : Nat} (wide : 0 < width) (small : n < 10 ^ width) :
    Digits width n (padded width n) where
  toNumeral := numeral_padded width n
  length := by
    have fits : (numeral n).length ≤ width := Nat.toDigits_length 10 n width wide small
    simp only [padded, List.length_append, List.length_replicate]
    omega

theorem writesYear_yearText (year : Int) : WritesYear year (yearText year) := by
  have numeral := numeral_padded 4 year.natAbs
  have four := le_length_padded 4 year.natAbs
  unfold yearText
  split
  case isTrue before =>
      have negative : -(year.natAbs : Int) = year := by omega
      have written := WritesYear.minus numeral four
      rwa [negative] at written
  case isFalse later =>
      have positive : (year.natAbs : Int) = year := by omega
      split
      case isTrue small =>
          have written : WritesYear year.natAbs (padded 4 year.natAbs) :=
            .unsigned (digits_padded (by decide) (by omega))
          rwa [positive] at written
      case isFalse large =>
          have written := WritesYear.plus numeral four
          rwa [positive] at written

theorem day_le (date : Date) : date.day ≤ 31 := by
  have inMonth := date.isDay.2.2.2
  unfold Calendar.daysInMonth at inMonth
  split at inMonth <;> (try split at inMonth) <;> omega

theorem month_le (date : Date) : date.month ≤ 12 := by
  have inMonth := date.isDay.2.2
  unfold Calendar.daysInMonth at inMonth
  split at inMonth <;> omega

theorem writesMonth (date : Date) : Digits 2 date.month (padded 2 date.month) := by
  have small := date.month_le
  exact digits_padded (by decide) (by omega)

theorem writesDay (date : Date) : Digits 2 date.day (padded 2 date.day) := by
  have small := date.day_le
  exact digits_padded (by decide) (by omega)

theorem exists_digits_of_year (later : 0 ≤ date.year) (small : date.year ≤ 9999) :
    ∃ (year : Nat) (years : List Char), date.year = year ∧ Digits 4 year years :=
  ⟨date.year.natAbs, _, by omega, digits_padded (by decide) (by omega)⟩

theorem exists_writes (suits : form.Suits date) : ∃ cs, Writes date form cs := by
  have writtenYear := writesYear_yearText date.year
  cases form with
  | hyphens => exact ⟨_, .hyphens writtenYear date.writesMonth date.writesDay⟩
  | slashes => exact ⟨_, .slashes writtenYear date.writesMonth date.writesDay⟩
  | monthFirst => exact ⟨_, .monthFirst date.writesMonth date.writesDay writtenYear⟩
  | timestamp =>
      obtain ⟨year, years, sameYear, fourDigits⟩ := exists_digits_of_year suits.1 suits.2
      have zero : Digits 2 0 ['0', '0'] := by decide
      have midnight := WritesTime.clock zero (by decide) zero (by decide) zero (by decide) .none
      exact ⟨_, .timestamp sameYear fourDigits date.writesMonth date.writesDay (.inl rfl) midnight
        (.letter (.inl rfl))⟩
  | bareYear =>
      obtain ⟨later, small, january, first⟩ := suits
      obtain ⟨year, years, sameYear, fourDigits⟩ := exists_digits_of_year later small
      exact ⟨_, .bareYear sameYear fourDigits january first⟩

/-! ## Forms find what is written -/

theorem Spaced.of_core {kind : List Char → Prop} (core : kind cs) : Spaced kind cs := by
  rw [← List.nil_append cs]
  exact .intro (List.forall_mem_nil _) core

theorem WritesYear.spaced (written : WritesYear year years) : Spaced (YearNumeral year) years :=
  .of_core written.yearNumeral

theorem Digits.spaced (written : Digits 2 n cs) : Spaced (ShortNumeral n) cs :=
  .of_core ⟨written.toNumeral, written.length.le⟩

theorem Writes.spells (written : Writes date form cs) :
    form.Spells date.year date.month date.day cs := by
  cases written with
  | hyphens writtenYear writtenMonth writtenDay =>
      exact .row writtenYear.spaced writtenMonth.spaced writtenDay.spaced
  | slashes writtenYear writtenMonth writtenDay =>
      exact .row writtenYear.spaced writtenMonth.spaced writtenDay.spaced
  | monthFirst writtenMonth writtenDay writtenYear =>
      exact .row writtenMonth.spaced writtenDay.spaced writtenYear.spaced
  | timestamp sameYear writtenYear writtenMonth writtenDay between writtenTime writtenOffset =>
      exact .row sameYear writtenYear writtenMonth writtenDay between writtenTime writtenOffset
  | bareYear sameYear writtenYear january first =>
      exact .digits sameYear writtenYear january first

theorem Writes.read? (written : Writes date form cs) : form.read? cs = some date :=
  read?_iff_spells.mpr written.spells

/-! ## Dates read back -/

theorem length_le_of_shortNumber? (starts : Starts cs) (h : shortNumber? cs = some (n, [])) :
    cs.length ≤ 2 := by
  obtain ⟨digits, _, short, split⟩ := upTo?_eq_some h
  rw [starts.skipBlanks, List.append_nil] at split
  rw [split]
  exact short

/-- Month, day and year are not taken for year, month and day: the year is too long for a day. -/
theorem slashes_unread (writtenMonth : Digits 2 month months) (writtenDay : Digits 2 day days)
    (writtenYear : WritesYear year years) :
    yearFirst? '/' (months ++ '/' :: (days ++ '/' :: years)) = none := by
  cases read : yearFirst? '/' (months ++ '/' :: (days ++ '/' :: years)) with
  | none => rfl
  | some other =>
      obtain ⟨cs₁, cs₂, hyear, hmonth, hday⟩ := yearFirst?_eq_some_iff.mp read
      have short : months.length ≤ 4 := by
        rw [writtenMonth.length]
        decide
      rw [year?_append writtenMonth.toNumeral short (.inr (digitsEnd_cons (by decide) _))] at hyear
      simp only [Option.some.injEq, Prod.mk.injEq, List.cons.injEq, true_and] at hyear
      rw [← hyear.2, writtenDay.shortNumber?] at hmonth
      simp only [Option.some.injEq, Prod.mk.injEq, List.cons.injEq, true_and] at hmonth
      rw [← hmonth.2] at hday
      have atMostTwo := length_le_of_shortNumber? writtenYear.starts hday
      have four := writtenYear.four_le
      omega

theorem Writes.ofTrimmed? (written : Writes date form cs) : ofTrimmed? cs = some date := by
  refine ofTrimmed?_of_read written.read? ?_
  intro isMonthFirst
  cases written with
  | monthFirst writtenMonth writtenDay writtenYear =>
      exact slashes_unread writtenMonth writtenDay writtenYear
  | hyphens | slashes | timestamp | bareYear => cases isMonthFirst

theorem Writes.parse? {front back : List Char} (written : Writes date form cs)
    (blankFront : ∀ c ∈ front, isBlank c) (blankBack : ∀ c ∈ back, isBlank c) :
    parse? (String.ofList (front ++ cs ++ back)) = some date := by
  rw [Date.parse?, String.toList_ofList,
    trim_between written.starts written.ends blankFront blankBack, written.ofTrimmed?]

/-- A date is read back from its text. -/
theorem parse?_text (date : Date) : parse? date.text = some date := by
  have written := Writes.hyphens (writesYear_yearText date.year) date.writesMonth date.writesDay
  have unspaced (c : Char) (noneThere : c ∈ []) : isBlank c := absurd noneThere List.not_mem_nil
  have read := written.parse? unspaced unspaced
  simpa [text] using read

/-- A day can be written in every form that suits it, and however it is written, an endpoint with that
    text and blanks around it names the day. -/
theorem written_date_reads_back (date : Date) :
    (∀ form : Form, form.Suits date → ∃ cs, Writes date form cs) ∧
      ∀ (form : Form) (front cs back : List Char), Writes date form cs → (∀ c ∈ front, isBlank c) →
        (∀ c ∈ back, isBlank c) →
          endpointDate (String.ofList (front ++ cs ++ back)) = .ok date := by
  constructor
  · intro form suits
    exact exists_writes suits
  · intro form front cs back written blankFront blankBack
    exact Span.endpointDate_of_some (written.parse? blankFront blankBack)

/-- The leap day of a year before year zero, with six digits of the year and blanks of several kinds. -/
theorem ancientLeapDay_reads_back :
    endpointDate "\t\u3000 02/29/-000004\u00a0\n" = .ok ⟨-4, 2, 29, by decide⟩ := by
  have month : Digits 2 2 ['0', '2'] := by decide
  have day : Digits 2 29 ['2', '9'] := by decide
  have year : WritesYear (-(4 : Nat)) "-000004".toList := .minus (n := 4) (by decide) (by decide)
  exact (written_date_reads_back ⟨-4, 2, 29, by decide⟩).2 .monthFirst "\t\u3000 ".toList _
    "\u00a0\n".toList (.monthFirst month day year) (List.all_eq_true.mp (by decide))
    (List.all_eq_true.mp (by decide))

end SimulationScript.Date
