import SimulationScript.Calendar.Endpoint
import SimulationScript.Settings.Toml.Reader

/-! # TOML dates and times

A date, a time of day, or both with or without an offset from universal time. Each has one text,
in whichever way it was written. Moments stand in a document as bare words, or in strings that are
marked as moments.
-/

namespace SimulationScript.Toml

structure TimeOfDay where
  hour : Nat
  minute : Nat
  second : Nat
  /-- The digits of the fraction of the second: at most nine, the last of them no zero. -/
  fraction : List Char
  deriving DecidableEq, Repr

inductive Offset where
  | universal
  | minutes (minutes : Int)
  deriving DecidableEq, Repr

/-- A date, a time of day, or both. -/
inductive Moment where
  | date (day : Date)
  | time (clock : TimeOfDay)
  | dateTime (day : Date) (clock : TimeOfDay) (offset : Option Offset)
  deriving DecidableEq, Repr

/-! ## Texts -/

/-- Hours, minutes and seconds, and the fraction of the second if there is one. -/
def TimeOfDay.text (time : TimeOfDay) : List Char :=
  let fraction := if time.fraction.isEmpty then [] else '.' :: time.fraction
  Text.padded 2 time.hour ++ ':' :: Text.padded 2 time.minute ++
    ':' :: Text.padded 2 time.second ++ fraction

/-- A letter, or a sign, hours and minutes. No minutes are written with a plus sign. -/
def Offset.text : Offset → List Char
  | universal => ['Z']
  | minutes n =>
    (if n < 0 then '-' else '+') ::
      (Text.padded 2 (n.natAbs / 60) ++ ':' :: Text.padded 2 (n.natAbs % 60))

def Moment.text : Moment → List Char
  | .date day => day.text.toList
  | .time clock => clock.text
  | .dateTime day clock offset =>
    day.text.toList ++ 'T' :: clock.text ++ (offset.map Offset.text).getD []

/-! ## Readers -/

/-- A number of two digits that is at most `last`. -/
def twoDigits? (last : Nat) : Reader Nat := fun cs => do
  let (n, rest) ← Date.exactly? 2 cs
  guard (n ≤ last)
  return (n, rest)

/-- The fraction of a second after its point. Digits after the ninth do not count. -/
def secondFraction (cs : List Char) : List Char × List Char :=
  match cs with
  | '.' :: rest =>
    let (digits, after) := Text.spanDigits rest
    if digits.isEmpty then ([], cs)
    else (((digits.take 9).reverse.dropWhile (· == '0')).reverse, after)
  | _ => ([], cs)

/-- A time of day. The second may be a leap second. -/
def timeOfDay? : Reader TimeOfDay := fun cs => do
  let (hour, cs) ← twoDigits? 23 cs
  let cs ← Date.mark? ':' cs
  let (minute, cs) ← twoDigits? 59 cs
  let cs ← Date.mark? ':' cs
  let (second, cs) ← twoDigits? 60 cs
  let (fraction, cs) := secondFraction cs
  return (⟨hour, minute, second, fraction⟩, cs)

/-- Year, month and day with hyphens between them. -/
def date? : Reader Date := fun cs => do
  let (year, cs) ← Date.exactly? 4 cs
  let cs ← Date.mark? '-' cs
  let (month, cs) ← Date.exactly? 2 cs
  let cs ← Date.mark? '-' cs
  let (day, cs) ← Date.exactly? 2 cs
  return (← Date.of? year month day, cs)

/-- An offset from universal time, of less than a day. -/
def offset? : Reader Offset
  | 'Z' :: rest => some (.universal, rest)
  | 'z' :: rest => some (.universal, rest)
  | c :: rest => do
    guard (c = '+' ∨ c = '-')
    let (hours, cs) ← twoDigits? 23 rest
    let cs ← Date.mark? ':' cs
    let (minutes, cs) ← twoDigits? 59 cs
    let total : Int := 60 * hours + minutes
    return (.minutes (if c = '-' then -total else total), cs)
  | [] => none

/-- The time of day after a date and the mark that separates the two. -/
def timeAfterDate? : Reader TimeOfDay
  | c :: rest => if c = 'T' ∨ c = 't' ∨ c = ' ' then timeOfDay? rest else none
  | [] => none

/-- A date, a time of day, or both. Only both together have an offset. -/
def moment? : Reader Moment := fun cs =>
  match date? cs with
  | none => (timeOfDay? cs).map fun (clock, rest) => (.time clock, rest)
  | some (day, rest) =>
    match timeAfterDate? rest with
    | none => some (.date day, rest)
    | some (clock, rest) =>
      match offset? rest with
      | none => some (.dateTime day clock none, rest)
      | some (offset, rest) => some (.dateTime day clock (some offset), rest)

/-- The moment that the whole of a string spells. -/
def Moment.ofString? (s : String) : Option Moment :=
  match moment? s.toList with
  | some (moment, []) => some moment
  | _ => none

end SimulationScript.Toml
