import SimulationScript.Number.Layout

/-! # Numbers

Numbers as data documents hold them: integers of 64 bits, signed or unsigned, and floating-point
numbers. A number token decides by its spelling which of the two it is.
-/

namespace SimulationScript

/-- The integers that fit a signed or an unsigned word of 64 bits. -/
def IsWord (n : Int) : Prop :=
  -0x8000000000000000 ≤ n ∧ n < 0x10000000000000000

instance (n : Int) : Decidable (IsWord n) :=
  inferInstanceAs (Decidable (_ ∧ _))

/-- The integers that fit a signed word of 64 bits. -/
def IsSignedWord (n : Int) : Prop :=
  -0x8000000000000000 ≤ n ∧ n < 0x8000000000000000

instance (n : Int) : Decidable (IsSignedWord n) :=
  inferInstanceAs (Decidable (_ ∧ _))

/-- The integer as a natural number of 32 bits, when it is one. -/
def natural32? (n : Int) : Option UInt32 :=
  if 0 ≤ n ∧ n < 0x100000000 then some (UInt32.ofNat n.toNat) else none

/-- An integer of 64 bits or a finite floating-point number. -/
inductive Number where
  | integer (value : Int) (isWord : IsWord value)
  | float (value : Binary64)
  deriving DecidableEq, Repr

namespace Number

/-- The integer as a number, when it fits 64 bits. -/
def ofInt? (n : Int) : Option Number :=
  if h : IsWord n then some (.integer n h) else none

def ofUInt32 (n : UInt32) : Number :=
  .integer n.toNat (by have := n.toNat_lt; unfold IsWord; omega)

def ofInt64 (n : Int64) : Number :=
  .integer n.toInt (by have := n.le_toInt; have := n.toInt_lt; unfold IsWord; omega)

/-- Documents write exponents outside -5 to 15 and end whole floating-point numbers in `.0`. -/
def documentLayout : Layout := ⟨some (-5), some 15, true, .toEven⟩

/-- Scripts never write an exponent and leave out the fraction of a whole number. -/
def scriptLayout : Layout := ⟨none, none, false, .awayFromZero⟩

/-- The text of a number in a given layout; integers have one text in all of them. -/
def text (layout : Layout) : Number → List Char
  | .integer n _ => Text.integer n
  | .float x => layout.text x

end Number

/-- A number as spelled: its sign, the digits before and after the point, and the exponent. The
    fraction is empty exactly when there is no point. -/
structure NumberToken where
  negative : Bool
  whole : List Char
  fraction : List Char
  /-- The sign (true for minus) and the digits of the exponent. -/
  exponent : Option (Bool × List Char)
  deriving DecidableEq, Repr

namespace NumberToken

/-- Appends digits to a significand while it fits 64 bits; also how many digits are left over. -/
def extend (significand : Nat) : List Char → Nat × Nat
  | [] => (significand, 0)
  | d :: rest =>
    let next := 10 * significand + Text.numeralValue [d]
    if next < 0x10000000000000000 then extend next rest else (significand, rest.length + 1)

/-- The significand of the token and the power of ten it stands for, before the exponent part.
    Whole digits that do not fit scale the significand; such fraction digits are ignored. -/
def significand (token : NumberToken) : Nat × Int :=
  let (whole, dropped) := extend 0 token.whole
  let (all, ignored) := extend whole token.fraction
  (all, (dropped : Int) - ((token.fraction.length : Int) - ignored))

/-- A decimal exponent kept within 32 bits. -/
def clamp (exponent : Int) : Int :=
  max (-0x80000000) (min exponent 0x7fffffff)

/-- The floating-point number that the token spells, or `none` when it is too large. An exponent
    of more than 31 bits gives zero for a zero significand and when it is negative. -/
def float? (token : NumberToken) : Option Binary64 :=
  let (significand, exponent) := token.significand
  match token.exponent with
  | none => Binary64.ofDecimal? token.negative significand exponent
  | some (minus, digits) =>
    let power := Text.numeralValue digits
    if 0x80000000 ≤ power then
      if significand = 0 ∨ minus then some (.zero token.negative) else none
    else
      let shift := if minus then exponent - power else exponent + power
      Binary64.ofDecimal? token.negative significand (clamp shift)

/-- The integer that the token spells, when it has neither a fraction nor an exponent and fits 64
    bits. Minus zero is no integer. -/
def integer? (token : NumberToken) : Option Number :=
  if token.fraction.isEmpty && token.exponent.isNone then
    let magnitude := Text.numeralValue token.whole
    if !token.negative then
      if h : IsWord magnitude then some (.integer magnitude h) else none
    else if magnitude = 0 then none
    else if h : IsWord (-magnitude) then some (.integer (-magnitude) h) else none
  else none

/-- The number that the token spells, or `none` when it is out of range. -/
def value? (token : NumberToken) : Option Number :=
  match token.integer? with
  | some n => some n
  | none => token.float?.map .float

end NumberToken

end SimulationScript
