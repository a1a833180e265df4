import SimulationScript.Proofs.Calendar.Scan

/-! # Dates that fit several forms

A text may fit several forms of dates. Each form begins with a number, and that number and the mark
behind it are the same whichever form scans them. So two forms that fit one text find the same
numbers in it, and only the two forms with slashes differ in what the numbers stand for.
-/

namespace SimulationScript.Date

open Text

/-- The ways to write a date. -/
inductive Form where
  | hyphens
  | slashes
  | monthFirst
  | timestamp
  | bareYear
  deriving DecidableEq, Repr

namespace Form

/-- The date that a text without blanks at its ends spells in one form. -/
def read? : Form → List Char → Option Date
  | hyphens => yearFirst? '-'
  | slashes => yearFirst? '/'
  | monthFirst => monthFirst?
  | timestamp => timestamp?
  | bareYear => bareYear?

/-- The date of the first form that fits. -/
def first? (order : List Form) (cs : List Char) : Option Date :=
  order.findSome? (·.read? cs)

/-- The order in which the forms are tried. -/
def order : List Form :=
  [hyphens, slashes, monthFirst, timestamp, bareYear]

/-- Of the two forms with slashes, the one with the year in front comes first. -/
def SlashesFirst (order : List Form) : Prop :=
  order.idxOf slashes < order.idxOf monthFirst

instance (order : List Form) : Decidable (SlashesFirst order) :=
  inferInstanceAs (Decidable (_ < _))

theorem mem_order (form : Form) : form ∈ order := by
  cases form <;> decide

end Form

variable {form form' : Form} {date date' : Date} {cs rest : List Char} {mark : Char}

theorem ofTrimmed?_eq_first? (cs : List Char) : ofTrimmed? cs = Form.first? Form.order cs := by
  simp only [ofTrimmed?, Form.first?, Form.order, List.findSome?_cons, List.findSome?_nil, Form.read?]
  cases yearFirst? '-' cs <;> cases yearFirst? '/' cs <;> cases monthFirst? cs <;>
    cases timestamp? cs <;> cases bareYear? cs <;> rfl

/-! ## The number at the front -/

/-- The number that a text begins with, behind blanks and a sign, and what follows it. -/
def leadingNumber (cs : List Char) : Int × List Char :=
  let (minus, unsigned) := sign (skipBlanks cs)
  let (digits, rest) := spanDigits unsigned
  (if minus then -(numeralValue digits : Int) else numeralValue digits, rest)

theorem leadingNumber_skipBlanks (cs : List Char) :
    leadingNumber (skipBlanks cs) = leadingNumber cs := by
  have twice : skipBlanks (skipBlanks cs) = skipBlanks cs := List.dropWhile_idempotent _ cs
  rw [leadingNumber, leadingNumber, twice]

theorem Numeral.sign (numeral : Numeral n digits) (rest : List Char) :
    sign (digits ++ rest) = (false, digits ++ rest) := by
  obtain ⟨c, more, rfl, digit⟩ := numeral.exists_cons
  have noSign : c ≠ '-' ∧ c ≠ '+' := by
    constructor <;> rintro rfl <;> exact absurd digit (by decide)
  simp [Text.sign, noSign]

theorem Numeral.leadingNumber (numeral : Numeral n digits) (ends : DigitsEnd rest) :
    leadingNumber (digits ++ rest) = ((n : Int), rest) := by
  simp [Date.leadingNumber, numeral.skipBlanks, numeral.sign, spanDigits_append numeral.all ends,
    numeral.value]

theorem exactly?_leading (wide : 0 < width) (h : exactly? width cs = some (n, rest))
    (ends : DigitsEnd rest) : leadingNumber cs = ((n : Int), rest) := by
  obtain ⟨digits, written, rfl⟩ := exactly?_eq_some wide h
  exact written.leadingNumber ends

theorem shortNumber?_leading (h : shortNumber? cs = some (n, rest)) (ends : DigitsEnd rest) :
    leadingNumber cs = ((n : Int), rest) := by
  obtain ⟨digits, numeral, _, split⟩ := upTo?_eq_some h
  rw [← leadingNumber_skipBlanks, split]
  exact numeral.leadingNumber ends

theorem year?_leading {year : Int} (h : year? cs = some (year, rest)) (ends : DigitsEnd rest) :
    leadingNumber cs = (year, rest) := by
  obtain ⟨years, written, split⟩ := year?_eq_some h
  rw [← leadingNumber_skipBlanks, split]
  cases written with
  | unsigned numeral => exact numeral.leadingNumber ends
  | minus numeral =>
      rw [List.cons_append, Date.leadingNumber, skipBlanks_cons (by decide)]
      simp [Text.sign, spanDigits_append numeral.all ends, numeral.value]
  | plus numeral =>
      rw [List.cons_append, Date.leadingNumber, skipBlanks_cons (by decide)]
      simp [Text.sign, spanDigits_append numeral.all ends, numeral.value]

/-! ## The numbers of a date -/

/-- Three numbers with a mark between them, and what follows. -/
def Row (mark : Char) (cs : List Char) (first second third : Int) (rest : List Char) : Prop :=
  ∃ cs₁ cs₂, leadingNumber cs = (first, mark :: cs₁) ∧
    leadingNumber cs₁ = (second, mark :: cs₂) ∧ leadingNumber cs₂ = (third, rest)

theorem Row.unique {mark' : Char} {rest' : List Char} {a b c a' b' c' : Int}
    (row : Row mark cs a b c rest) (row' : Row mark' cs a' b' c' rest') :
    mark = mark' ∧ a = a' ∧ b = b' ∧ c = c' ∧ rest = rest' := by
  obtain ⟨cs₁, cs₂, first, second, third⟩ := row
  obtain ⟨_, _, first', second', third'⟩ := row'
  cases first.symm.trans first'
  cases second.symm.trans second'
  cases third.symm.trans third'
  exact ⟨rfl, rfl, rfl, rfl, rfl⟩

theorem yearFirst?_row (other : ¬ mark.isDigit) (h : yearFirst? mark cs = some date) :
    Row mark cs date.year date.month date.day [] := by
  obtain ⟨cs₁, cs₂, year, month, day⟩ := yearFirst?_eq_some_iff.mp h
  exact ⟨cs₁, cs₂, year?_leading year (digitsEnd_cons other cs₁),
    shortNumber?_leading month (digitsEnd_cons other cs₂), shortNumber?_leading day digitsEnd_nil⟩

theorem monthFirst?_row (h : monthFirst? cs = some date) :
    Row '/' cs date.month date.day date.year [] := by
  obtain ⟨cs₁, cs₂, month, day, year⟩ := monthFirst?_eq_some_iff.mp h
  have other : ¬ '/'.isDigit := by decide
  exact ⟨cs₁, cs₂, shortNumber?_leading month (digitsEnd_cons other cs₁),
    shortNumber?_leading day (digitsEnd_cons other cs₂), year?_leading year digitsEnd_nil⟩

theorem timestamp?_row (h : timestamp? cs = some date) :
    ∃ separator more, Row '-' cs date.year date.month date.day (separator :: more) := by
  obtain ⟨year, separator, cs₁, cs₂, more, _, same, hyear, hmonth, hday, between, _⟩ :=
    timestamp?_eq_some_iff.mp h
  have other : ¬ '-'.isDigit := by decide
  have otherSeparator : ¬ separator.isDigit := by rcases between with rfl | rfl | rfl <;> decide
  rw [same]
  exact ⟨separator, more, cs₁, cs₂, exactly?_leading (by decide) hyear (digitsEnd_cons other cs₁),
    exactly?_leading (by decide) hmonth (digitsEnd_cons other cs₂),
    exactly?_leading (by decide) hday (digitsEnd_cons otherSeparator more)⟩

/-- The mark behind the first number of a date. A bare year has none. -/
def Form.mark? : Form → Option Char
  | hyphens | timestamp => some '-'
  | slashes | monthFirst => some '/'
  | bareYear => none

theorem Row.head? {a b c : Int} (row : Row mark cs a b c rest) :
    (leadingNumber cs).2.head? = some mark := by
  obtain ⟨cs₁, cs₂, first, _⟩ := row
  rw [first, List.head?_cons]

theorem mark?_of_read (h : form.read? cs = some date) : (leadingNumber cs).2.head? = form.mark? := by
  cases form with
  | hyphens => exact (yearFirst?_row (by decide) h).head?
  | slashes => exact (yearFirst?_row (by decide) h).head?
  | monthFirst => exact (monthFirst?_row h).head?
  | timestamp =>
      obtain ⟨separator, more, row⟩ := timestamp?_row h
      exact row.head?
  | bareYear =>
      obtain ⟨year, scanned, _⟩ := bareYear?_eq_some_iff.mp h
      rw [exactly?_leading (by decide) scanned digitsEnd_nil]
      rfl

/-! ## Two forms of one text -/

/-- Year, month and day of one date are the same numbers as month, day and year of another. -/
structure Rotated (date date' : Date) : Prop where
  yearMonth : date.year = date'.month
  monthDay : date.month = date'.day
  dayYear : date.day = date'.year

/-- The two forms with slashes, with the dates that they find in the same numbers. -/
inductive Conflict : Form → Form → Date → Date → Prop where
  | slashesMonthFirst {a b : Date} (rotated : Rotated a b) : Conflict .slashes .monthFirst a b
  | monthFirstSlashes {a b : Date} (rotated : Rotated b a) : Conflict .monthFirst .slashes a b

theorem rotated_of_reads (h : yearFirst? '/' cs = some date) (h' : monthFirst? cs = some date') :
    Rotated date date' := by
  obtain ⟨_, year, month, day, _⟩ := (yearFirst?_row (by decide) h).unique (monthFirst?_row h')
  exact ⟨year, by omega, day⟩

/-- A date without a time of day is no timestamp. -/
theorem not_timestamp_of_hyphens (h : yearFirst? '-' cs = some date)
    (h' : timestamp? cs = some date') : False := by
  obtain ⟨separator, more, row⟩ := timestamp?_row h'
  obtain ⟨_, _, _, _, behind⟩ := (yearFirst?_row (by decide) h).unique row
  cases behind

theorem read_agrees (h : form.read? cs = some date) (h' : form'.read? cs = some date') :
    date = date' ∨ Conflict form form' date date' := by
  have sameMark : form.mark? = form'.mark? := (mark?_of_read h).symm.trans (mark?_of_read h')
  cases form <;> cases form' <;> cases sameMark
  case hyphens.timestamp => exact (not_timestamp_of_hyphens h h').elim
  case timestamp.hyphens => exact (not_timestamp_of_hyphens h' h).elim
  case slashes.monthFirst => exact .inr (.slashesMonthFirst (rotated_of_reads h h'))
  case monthFirst.slashes => exact .inr (.monthFirstSlashes (rotated_of_reads h' h))
  all_goals exact .inl (Option.some.inj (h.symm.trans h'))

/-! ## The order of the forms -/

variable {order order' : List Form}

/-- A form gives a text its date, as the foremost form that fits. -/
structure Decides (order : List Form) (cs : List Char) (form : Form) (date : Date) : Prop where
  found : Form.first? order cs = some date
  reads : form.read? cs = some date
  foremost : ∀ other : Form, other ≠ form → other.read? cs ≠ none →
    order.idxOf form < order.idxOf other

theorem Decides.fits (decides : Decides order cs form date) : form.read? cs ≠ none := by
  simp [decides.reads]

theorem exists_decides_of_found (found : Form.first? order cs = some date) :
    ∃ form, Decides order cs form date := by
  induction order with
  | nil => cases found
  | cons head order ih =>
      have here := found
      rw [Form.first?, List.findSome?_cons] at here
      cases read : head.read? cs with
      | some date' =>
          rw [read] at here
          refine ⟨head, found, read.trans here, ?_⟩
          intro other different _
          rw [List.idxOf_cons_self, List.idxOf_cons_ne _ different.symm]
          exact Nat.succ_pos _
      | none =>
          rw [read] at here
          obtain ⟨form, decides⟩ := ih here
          have behind {other : Form} (fits : other.read? cs ≠ none) : head ≠ other := by
            rintro rfl
            exact fits read
          refine ⟨form, found, decides.reads, ?_⟩
          intro other different fits
          rw [List.idxOf_cons_ne _ (behind decides.fits), List.idxOf_cons_ne _ (behind fits)]
          exact Nat.succ_lt_succ (decides.foremost other different fits)

theorem first?_eq_none_iff (complete : ∀ form, form ∈ order) :
    Form.first? order cs = none ↔ ∀ form : Form, form.read? cs = none := by
  simp [Form.first?, complete]

theorem exists_decides (complete : ∀ form, form ∈ order) (reads : form.read? cs = some date) :
    ∃ form' date', Decides order cs form' date' := by
  have someFits : Form.first? order cs ≠ none := by
    intro noneFound
    have unread := (first?_eq_none_iff complete).mp noneFound form
    cases reads.symm.trans unread
  obtain ⟨date', found⟩ := Option.ne_none_iff_exists'.mp someFits
  obtain ⟨form', decides⟩ := exists_decides_of_found found
  exact ⟨form', date', decides⟩

theorem first?_congr (complete : ∀ form, form ∈ order) (complete' : ∀ form, form ∈ order')
    (same : Form.slashes.read? cs ≠ none → Form.monthFirst.read? cs ≠ none →
      (Form.SlashesFirst order ↔ Form.SlashesFirst order')) :
    Form.first? order cs = Form.first? order' cs := by
  cases found : Form.first? order cs with
  | none =>
      have nothingFits := (first?_eq_none_iff complete).mp found
      exact ((first?_eq_none_iff complete').mpr nothingFits).symm
  | some date =>
      obtain ⟨form, decides⟩ := exists_decides_of_found found
      obtain ⟨form', date', decides'⟩ := exists_decides complete' decides.reads
      rw [decides'.found]
      rcases read_agrees decides.reads decides'.reads with agree | conflict
      · rw [agree]
      · cases conflict with
        | slashesMonthFirst =>
            have ahead : Form.SlashesFirst order := decides.foremost _ (by decide) decides'.fits
            have behind := decides'.foremost _ (by decide) decides.fits
            exact absurd ((same decides.fits decides'.fits).mp ahead) behind.asymm
        | monthFirstSlashes =>
            have behind := decides.foremost _ (by decide) decides'.fits
            have ahead : Form.SlashesFirst order' := decides'.foremost _ (by decide) decides.fits
            exact absurd ((same decides'.fits decides.fits).mpr ahead) behind.asymm

/-- A form that fits finds the date of a text, unless another form with slashes comes before it. -/
theorem ofTrimmed?_of_read (reads : form.read? cs = some date)
    (unrivalled : form = .monthFirst → Form.slashes.read? cs = none) : ofTrimmed? cs = some date := by
  obtain ⟨form', date', decides⟩ := exists_decides Form.mem_order reads
  have fits : form.read? cs ≠ none := by simp [reads]
  rw [ofTrimmed?_eq_first?, decides.found]
  rcases read_agrees reads decides.reads with agree | conflict
  · rw [agree]
  · cases conflict with
    | slashesMonthFirst => exact absurd (decides.foremost _ (by decide) fits) (by decide)
    | monthFirstSlashes => cases (unrivalled rfl).symm.trans decides.reads

/-- What the forms make of a text without blanks at its ends: two forms that fit find one date, and
    only the two forms with slashes can make the order of the forms matter. -/
structure FormsAgree (cs : List Char) : Prop where
  dates : ∀ (form form' : Form) (date date' : Date), form.read? cs = some date →
    form'.read? cs = some date' → date = date' ∨ Conflict form form' date date'
  orders : ∀ order order' : List Form, (∀ form, form ∈ order) → (∀ form, form ∈ order') →
    (Form.slashes.read? cs ≠ none → Form.monthFirst.read? cs ≠ none →
      (Form.SlashesFirst order ↔ Form.SlashesFirst order')) →
    Form.first? order cs = Form.first? order' cs

/-- The date of a text is what any form that fits finds in it, unless both forms with slashes fit. -/
theorem forms_agree_unless_slashes (raw : String) :
    FormsAgree (trim raw.toList) ∧
      parse? raw = Form.first? Form.order (trim raw.toList) ∧ Form.SlashesFirst Form.order := by
  refine ⟨⟨?_, ?_⟩, ofTrimmed?_eq_first? _, by decide⟩
  · intro form form' date date' reads reads'
    exact read_agrees reads reads'
  · intro order order' complete complete' same
    exact first?_congr complete complete' same

/-- A text that both forms with slashes fit, with the forms in another order. -/
theorem shortSlashes_agree_in_other_order :
    Conflict .slashes .monthFirst ⟨3, 4, 20, by decide⟩ ⟨20, 3, 4, by decide⟩ ∧
      Form.first? [.bareYear, .timestamp, .slashes, .monthFirst, .hyphens]
        (trim " 03/04/20\n".toList) = parse? " 03/04/20\n" := by
  obtain ⟨agree, found, slashesFirst⟩ := forms_agree_unless_slashes " 03/04/20\n"
  constructor
  · exact (agree.dates .slashes .monthFirst _ _ (by decide) (by decide)).resolve_left (by decide)
  · rw [found]
    refine agree.orders _ _ ?_ Form.mem_order ?_
    · intro form
      cases form <;> decide
    · intro _ _
      decide

/-- Both forms with slashes fit one text, each finds another day in it, and the day found is that of
    the form which is tried first. -/
theorem shortSlashes_read_two_ways :
    ∃ date date' : Date, date ≠ date' ∧
      Form.slashes.read? (trim "03/04/20".toList) = some date ∧
      Form.monthFirst.read? (trim "03/04/20".toList) = some date' ∧
      Form.first? Form.order (trim "03/04/20".toList) = some date ∧
      Form.first? [.hyphens, .monthFirst, .slashes, .timestamp, .bareYear]
        (trim "03/04/20".toList) = some date' := by
  refine ⟨⟨3, 4, 20, by decide⟩, ⟨20, 3, 4, by decide⟩, ?_, ?_, ?_, ?_, ?_⟩ <;> decide

end SimulationScript.Date
