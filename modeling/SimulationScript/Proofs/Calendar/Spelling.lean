import SimulationScript.Proofs.Calendar.Reading

/-! # The characters of a date

A form of a date is a row of scans, and each scan takes characters of one kind off the front of a
text. So the texts that spell dates are made of few characters, and only a timestamp has a point.
-/

namespace SimulationScript.Date

open Text

variable {cs rest : List Char} {date : Date} {c : Char}

/-- Only characters of one kind stand before what is left of a text. -/
def Takes (kind : Char → Prop) (cs rest : List Char) : Prop :=
  ∃ front, cs = front ++ rest ∧ ∀ c ∈ front, kind c

namespace Takes

variable {kind : Char → Prop}

theorem trans {more : List Char} (first : Takes kind cs rest) (second : Takes kind rest more) :
    Takes kind cs more := by
  obtain ⟨front, rfl, allFront⟩ := first
  obtain ⟨back, rfl, allBack⟩ := second
  refine ⟨front ++ back, by simp, ?_⟩
  simpa [or_imp, forall_and] using ⟨allFront, allBack⟩

theorem mono {kind' : Char → Prop} (wider : ∀ c, kind c → kind' c) (taken : Takes kind cs rest) :
    Takes kind' cs rest := by
  obtain ⟨front, split, all⟩ := taken
  exact ⟨front, split, fun c hc => wider c (all c hc)⟩

theorem forall_mem (taken : Takes kind cs []) : ∀ c ∈ cs, kind c := by
  obtain ⟨front, rfl, all⟩ := taken
  simpa using all

end Takes

/-! ## Scans -/

theorem Numeral.takes {n : Nat} {digits : List Char} (numeral : Numeral n digits) (rest : List Char) :
    Takes (·.isDigit) (digits ++ rest) rest :=
  ⟨digits, rfl, numeral.all⟩

theorem upTo?_takes {width n : Nat} (h : upTo? width cs = some (n, rest)) :
    Takes (·.isDigit) cs rest := by
  obtain ⟨digits, numeral, _, rfl⟩ := upTo?_eq_some h
  exact numeral.takes rest

/-! ## Days -/

/-- The characters of a day: blanks, digits, signs and the marks between numbers. -/
def IsDayCharacter (c : Char) : Prop :=
  isBlank c ∨ c.isDigit ∨ c ∈ ['+', '-', '/']

instance : Decidable (IsDayCharacter c) :=
  inferInstanceAs (Decidable (_ ∨ _ ∨ _))

theorem isDayCharacter_of_isDigit (h : c.isDigit) : IsDayCharacter c :=
  .inr (.inl h)

theorem skipBlanks_takes (cs : List Char) : Takes IsDayCharacter cs (skipBlanks cs) := by
  obtain ⟨gap, split, blank⟩ := exists_skipBlanks cs
  exact ⟨gap, split, fun c hc => .inl (blank c hc)⟩

theorem takes_mark {mark : Char} (kind : IsDayCharacter mark) (rest : List Char) :
    Takes IsDayCharacter (mark :: rest) rest :=
  ⟨[mark], rfl, by simpa using kind⟩

theorem shortNumber?_takes {n : Nat} (h : shortNumber? cs = some (n, rest)) :
    Takes IsDayCharacter cs rest :=
  (skipBlanks_takes cs).trans ((upTo?_takes h).mono fun _ => isDayCharacter_of_isDigit)

theorem YearNumeral.characters {year : Int} {years : List Char} (written : YearNumeral year years) :
    ∀ c ∈ years, IsDayCharacter c := by
  cases written with
  | unsigned numeral => exact fun c hc => isDayCharacter_of_isDigit (numeral.all c hc)
  | minus numeral | plus numeral =>
      refine List.forall_mem_cons.mpr ⟨by decide, ?_⟩
      exact fun c hc => isDayCharacter_of_isDigit (numeral.all c hc)

theorem year?_takes {n : Int} (h : year? cs = some (n, rest)) : Takes IsDayCharacter cs rest := by
  obtain ⟨years, written, split⟩ := year?_eq_some h
  exact (skipBlanks_takes cs).trans ⟨years, split, written.characters⟩

theorem yearFirst?_characters {mark : Char} (kind : IsDayCharacter mark)
    (h : yearFirst? mark cs = some date) : ∀ c ∈ cs, IsDayCharacter c := by
  obtain ⟨cs₁, cs₂, hyear, hmonth, hday⟩ := yearFirst?_eq_some_iff.mp h
  apply Takes.forall_mem
  exact (year?_takes hyear).trans <| (takes_mark kind cs₁).trans <|
    (shortNumber?_takes hmonth).trans <| (takes_mark kind cs₂).trans <| shortNumber?_takes hday

theorem monthFirst?_characters (h : monthFirst? cs = some date) : ∀ c ∈ cs, IsDayCharacter c := by
  obtain ⟨cs₁, cs₂, hmonth, hday, hyear⟩ := monthFirst?_eq_some_iff.mp h
  have slash : IsDayCharacter '/' := by decide
  apply Takes.forall_mem
  exact (shortNumber?_takes hmonth).trans <| (takes_mark slash cs₁).trans <|
    (shortNumber?_takes hday).trans <| (takes_mark slash cs₂).trans <| year?_takes hyear

theorem bareYear?_characters (h : bareYear? cs = some date) : ∀ c ∈ cs, IsDayCharacter c := by
  obtain ⟨year, hyear, _⟩ := bareYear?_eq_some_iff.mp h
  obtain ⟨digits, written, rfl⟩ := exactly?_eq_some (by decide) hyear
  exact ((written.takes []).mono fun _ => isDayCharacter_of_isDigit).forall_mem

/-! ## Timestamps -/

/-- The characters of dates and times of day, apart from the point before a fraction. -/
def IsClockCharacter (c : Char) : Prop :=
  IsDayCharacter c ∨ c ∈ [':', 'T', 't', 'Z', 'z', '\u2212']

instance : Decidable (IsClockCharacter c) :=
  inferInstanceAs (Decidable (_ ∨ _))

theorem clock_of_digits (digits : ∀ c ∈ cs, c.isDigit) : ∀ c ∈ cs, IsClockCharacter c :=
  fun c hc => .inl (isDayCharacter_of_isDigit (digits c hc))

/-- The fraction of a second, which may be left out. -/
def IsFraction (cs : List Char) : Prop :=
  cs = [] ∨ ∃ digits, cs = '.' :: digits ∧ ∀ c ∈ digits, c.isDigit

theorem WritesFraction.isFraction (written : WritesFraction cs) : IsFraction cs := by
  cases written with
  | none => exact .inl rfl
  | point numeral => exact .inr ⟨_, rfl, numeral.all⟩

/-- A time of day without its fraction always has eight characters. -/
theorem WritesTime.exists_clock (written : WritesTime cs) :
    ∃ time fraction, cs = time ++ fraction ∧ time.length = 8 ∧ ':' ∈ time ∧
      (∀ c ∈ time, IsClockCharacter c) ∧ IsFraction fraction := by
  cases written with
  | @clock _ _ _ hours minutes seconds fraction writtenHour _ writtenMinute _ writtenSecond _
      writtenFraction =>
      have colon : IsClockCharacter ':' := by decide
      refine ⟨hours ++ ':' :: (minutes ++ ':' :: seconds), fraction, by simp, ?_, by simp, ?_,
        writtenFraction.isFraction⟩
      · simp [writtenHour.length, writtenMinute.length, writtenSecond.length]
      · simp only [List.forall_mem_append, List.forall_mem_cons]
        exact ⟨clock_of_digits writtenHour.all, colon, clock_of_digits writtenMinute.all, colon,
          clock_of_digits writtenSecond.all⟩

theorem WritesOffset.characters (written : WritesOffset cs) : ∀ c ∈ cs, IsClockCharacter c := by
  cases written with
  | letter zulu =>
      refine List.forall_mem_singleton.mpr ?_
      rcases zulu with rfl | rfl <;> decide
  | @signed sign _ _ _ _ isSign writtenHour _ writtenMinute =>
      have clock : IsClockCharacter sign := by rcases isSign with rfl | rfl | rfl <;> decide
      simp only [List.forall_mem_append, List.forall_mem_cons]
      exact ⟨clock, clock_of_digits writtenHour.all, by decide, clock_of_digits writtenMinute.all⟩

theorem WritesOffset.ne_nil (written : WritesOffset cs) : cs ≠ [] := by
  cases written <;> simp

/-- The parts of a timestamp: day and time of day, which always have nineteen characters, then the
    fraction of a second and the offset. -/
structure TimestampParts (cs stamp fraction offset : List Char) : Prop where
  whole : cs = stamp ++ fraction ++ offset
  width : stamp.length = 19
  colon : ':' ∈ stamp
  stamp : ∀ c ∈ stamp, IsClockCharacter c
  fraction : IsFraction fraction
  nonempty : offset ≠ []
  offset : ∀ c ∈ offset, IsClockCharacter c

theorem timestamp?_eq_some (h : timestamp? cs = some date) :
    ∃ stamp fraction offset, TimestampParts cs stamp fraction offset := by
  cases timestamp?_iff_spells.mp h with
  | @row _ separator years months days time offset _ writtenYear writtenMonth writtenDay between
      writtenTime writtenOffset =>
      obtain ⟨time, fraction, rfl, eight, colon, clockTime, isFraction⟩ := writtenTime.exists_clock
      have clockSeparator : IsClockCharacter separator := by
        rcases between with rfl | rfl | rfl <;> decide
      have hyphen : IsClockCharacter '-' := by decide
      refine ⟨years ++ '-' :: (months ++ '-' :: (days ++ separator :: time)), fraction, offset,
        by simp, ?_, by simp [colon], ?_, isFraction, writtenOffset.ne_nil, writtenOffset.characters⟩
      · simp [writtenYear.length, writtenMonth.length, writtenDay.length, eight]
      · simp only [List.forall_mem_append, List.forall_mem_cons]
        exact ⟨clock_of_digits writtenYear.all, hyphen, clock_of_digits writtenMonth.all, hyphen,
          clock_of_digits writtenDay.all, clockSeparator, clockTime⟩

/-! ## Dates -/

/-- The characters of a date, whatever its form. -/
def IsDateCharacter (c : Char) : Prop :=
  IsClockCharacter c ∨ c = '.'

instance : Decidable (IsDateCharacter c) :=
  inferInstanceAs (Decidable (_ ∨ _))

theorem ofTrimmed?_eq_some (h : ofTrimmed? cs = some date) :
    (∀ c ∈ cs, IsDayCharacter c) ∨ timestamp? cs = some date := by
  simp only [ofTrimmed?, Option.or_eq_some_iff] at h
  rcases h with hyphens | ⟨_, slashes | ⟨_, monthFirst | ⟨_, timestamp | ⟨_, bare⟩⟩⟩⟩
  · exact .inl (yearFirst?_characters (by decide) hyphens)
  · exact .inl (yearFirst?_characters (by decide) slashes)
  · exact .inl (monthFirst?_characters monthFirst)
  · exact .inr timestamp
  · exact .inl (bareYear?_characters bare)

theorem ofTrimmed?_characters (h : ofTrimmed? cs = some date) : ∀ c ∈ cs, IsDateCharacter c := by
  intro c hc
  rcases ofTrimmed?_eq_some h with day | timestamp
  · exact .inl (.inl (day c hc))
  · obtain ⟨stamp, fraction, offset, parts⟩ := timestamp?_eq_some timestamp
    rw [parts.whole, List.mem_append, List.mem_append] at hc
    rcases hc with (inStamp | inFraction) | inOffset
    · exact .inl (parts.stamp c inStamp)
    · rcases parts.fraction with rfl | ⟨digits, rfl, all⟩
      · cases inFraction
      · rcases List.mem_cons.mp inFraction with rfl | digit
        · exact .inr rfl
        · exact .inl (clock_of_digits all c digit)
    · exact .inl (parts.offset c inOffset)

/-- A text that spells a date consists of the characters of dates, blanks among them. -/
theorem parse?_characters {raw : String} (h : parse? raw = some date) :
    ∀ c ∈ raw.toList, IsDateCharacter c := by
  intro c hc
  by_cases blank : isBlank c
  · exact .inl (.inl (.inl blank))
  · exact ofTrimmed?_characters h c (mem_trim blank hc)

/-- A text with a colon and no offset is no date: days have no colon, and timestamps are longer. -/
theorem ofTrimmed?_eq_none (colon : ':' ∈ cs) (short : cs.length ≤ 19) : ofTrimmed? cs = none := by
  cases read : ofTrimmed? cs with
  | none => rfl
  | some date =>
      rcases ofTrimmed?_eq_some read with day | timestamp
      · exact absurd (day ':' colon) (by decide)
      · obtain ⟨stamp, fraction, offset, parts⟩ := timestamp?_eq_some timestamp
        have longer := congrArg List.length parts.whole
        have offsetThere := List.length_pos_iff.mpr parts.nonempty
        simp only [List.length_append, parts.width] at longer
        omega

/-- Only the fraction of a timestamp has a point, and what stands before it is no date. -/
theorem parse?_before_point {raw : String} (h : parse? raw = some date) (point : '.' ∈ raw.toList) :
    (timestamp? (trim raw.toList)).isSome ∧
      ∃ before after, raw.toList = before ++ '.' :: after ∧ '.' ∉ before ∧ before ≠ [] ∧
        parse? (String.ofList before) = none := by
  have inside : '.' ∈ trim raw.toList := mem_trim (by decide) point
  rcases ofTrimmed?_eq_some h with day | timestamp
  · exact absurd (day '.' inside) (by decide)
  · refine ⟨by simp [timestamp], ?_⟩
    obtain ⟨stamp, fraction, offset, parts⟩ := timestamp?_eq_some timestamp
    have notClock : ¬ IsClockCharacter '.' := by decide
    have notInStamp : '.' ∉ stamp := fun member => notClock (parts.stamp _ member)
    have notInOffset : '.' ∉ offset := fun member => notClock (parts.offset _ member)
    obtain ⟨front, back, split, blankFront, _⟩ := exists_trim raw.toList
    have notInFront : '.' ∉ front := fun member => absurd (blankFront _ member) (by decide)
    rcases parts.fraction with rfl | ⟨digits, rfl, _⟩
    · simp [parts.whole, notInStamp, notInOffset] at inside
    · refine ⟨front ++ stamp, digits ++ offset ++ back, ?_, by simp [notInFront, notInStamp], ?_, ?_⟩
      · rw [split, parts.whole]
        simp
      · exact fun noneThere => absurd parts.colon (by simp [(List.append_eq_nil_iff.mp noneThere).2])
      · rw [parse?, String.toList_ofList, trim_append blankFront]
        refine ofTrimmed?_eq_none (mem_trim (by decide) parts.colon) ?_
        exact parts.width ▸ length_trim_le stamp

end SimulationScript.Date
