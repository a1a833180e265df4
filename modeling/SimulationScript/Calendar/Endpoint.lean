import SimulationScript.Calendar.Date
import SimulationScript.Text.Blank

/-! # Dates as people write them

The end of an interval is a date in one of five forms: year, month and day joined by hyphens or by
slashes, month, day and year joined by slashes, a timestamp of which only the date counts, or four
digits for the first of January.
-/

namespace SimulationScript.Date

open Text

/-- What follows a given character. -/
def mark? (c : Char) (cs : List Char) : Option (List Char) :=
  match cs with
  | d :: rest => if d = c then some rest else none
  | [] => none

/-- At least one digit and at most `width` digits at the front of a text. -/
def upTo? (width : Nat) (cs : List Char) : Option (Nat × List Char) :=
  let digits := (cs.take width).takeWhile Char.isDigit
  if digits.isEmpty then none else some (numeralValue digits, cs.drop digits.length)

/-- Exactly `width` digits at the front of a text. -/
def exactly? (width : Nat) (cs : List Char) : Option (Nat × List Char) :=
  let digits := (cs.take width).takeWhile Char.isDigit
  if digits.length = width then some (numeralValue digits, cs.drop width) else none

/-- A month or a day of the month: one or two digits after any blanks. -/
def shortNumber? (cs : List Char) : Option (Nat × List Char) :=
  upTo? 2 (skipBlanks cs)

/-- Any number of digits, of which there must be one. -/
def signedDigits? (cs : List Char) : Option (Nat × List Char) :=
  let (digits, rest) := spanDigits cs
  if digits.isEmpty then none else some (numeralValue digits, rest)

/-- A year after any blanks: up to four digits, or a sign and any number of digits. -/
def year? (cs : List Char) : Option (Int × List Char) :=
  match skipBlanks cs with
  | '-' :: rest => (signedDigits? rest).map fun (n, rest) => (-(n : Int), rest)
  | '+' :: rest => (signedDigits? rest).map fun (n, rest) => ((n : Int), rest)
  | cs => (upTo? 4 cs).map fun (n, rest) => ((n : Int), rest)

/-- Year, month and day with the same mark between them. -/
def yearFirst? (mark : Char) (cs : List Char) : Option Date := do
  let (year, cs) ← year? cs
  let cs ← mark? mark cs
  let (month, cs) ← shortNumber? cs
  let cs ← mark? mark cs
  let (day, cs) ← shortNumber? cs
  if cs.isEmpty then of? year month day else none

/-- Month, day and year with slashes between them. -/
def monthFirst? (cs : List Char) : Option Date := do
  let (month, cs) ← shortNumber? cs
  let cs ← mark? '/' cs
  let (day, cs) ← shortNumber? cs
  let cs ← mark? '/' cs
  let (year, cs) ← year? cs
  if cs.isEmpty then of? year month day else none

/-- The time of day of a timestamp, with an optional fraction; a leap second may be 60. -/
def skipTime? (cs : List Char) : Option (List Char) := do
  let (hour, cs) ← exactly? 2 cs
  let cs ← mark? ':' cs
  let (minute, cs) ← exactly? 2 cs
  let cs ← mark? ':' cs
  let (second, cs) ← exactly? 2 cs
  guard (hour ≤ 23 ∧ minute ≤ 59 ∧ second ≤ 60)
  match cs with
  | '.' :: rest => (signedDigits? rest).map (·.2)
  | _ => some cs

/-- The offset from universal time of a timestamp: a letter, or a sign, hours and minutes. -/
def skipOffset? (cs : List Char) : Option (List Char) :=
  match cs with
  | [] => none
  | c :: rest =>
    if c = 'Z' ∨ c = 'z' then some rest
    else if c = '+' ∨ c = '-' ∨ c = '\u2212' then do
      let (hours, cs) ← exactly? 2 rest
      let cs ← mark? ':' cs
      let (minutes, cs) ← exactly? 2 cs
      guard (hours ≤ 23 ∧ minutes ≤ 59)
      some cs
    else none

/-- A timestamp with date, time and offset. Its date is taken as written, in no other time zone. -/
def timestamp? (cs : List Char) : Option Date := do
  let (year, cs) ← exactly? 4 cs
  let cs ← mark? '-' cs
  let (month, cs) ← exactly? 2 cs
  let cs ← mark? '-' cs
  let (day, cs) ← exactly? 2 cs
  let date ← of? year month day
  let cs ← match cs with
    | c :: rest => if c = 'T' ∨ c = 't' ∨ c = ' ' then some rest else none
    | [] => none
  let cs ← skipTime? cs
  let cs ← skipOffset? cs
  if cs.isEmpty then some date else none

/-- Four digits: the first day of that year. -/
def bareYear? (cs : List Char) : Option Date := do
  let (year, cs) ← exactly? 4 cs
  if cs.isEmpty then of? year 1 1 else none

/-- The date that a text without blanks at its ends spells, by the first form that fits. -/
def ofTrimmed? (cs : List Char) : Option Date :=
  (yearFirst? '-' cs).or <| (yearFirst? '/' cs).or <| (monthFirst? cs).or <|
    (timestamp? cs).or <| bareYear? cs

/-- The date that a text spells, blanks at its ends apart. -/
def parse? (raw : String) : Option Date :=
  ofTrimmed? (trim raw.toList)

end SimulationScript.Date
