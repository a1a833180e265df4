import SimulationScript.Json.Printer
import SimulationScript.Json.Reader
import SimulationScript.Proofs.Json.Escape
import SimulationScript.Proofs.Text.Numeral

/-! # Tokens read back

What a reader of tokens makes of the strings and integers that a writer writes, with any text
after them that cannot carry a token on.
-/

namespace SimulationScript.Json

/-! ## Strings -/

theorem hexValue?_hexDigit {n : Nat} (h : n < 16) : hexValue? (hexDigit n) = some n := by
  have allDigits : ∀ n < 16, hexValue? (hexDigit n) = some n := by decide
  exact allDigits n h

theorem readHex_byte {n : Nat} (h : n < 0x100) (rest : List Char) :
    readHex ('0' :: '0' :: hexDigit (n / 16) :: hexDigit (n % 16) :: rest) = .ok (n, rest) := by
  have high : hexValue? (hexDigit (n / 16)) = some (n / 16) := hexValue?_hexDigit (by omega)
  have low : hexValue? (hexDigit (n % 16)) = some (n % 16) := hexValue?_hexDigit (by omega)
  have zero : hexValue? '0' = some 0 := by decide
  have whole : 4096 * 0 + 256 * 0 + 16 * (n / 16) + n % 16 = n := by omega
  simp only [readHex, zero, high, low, whole]

theorem readEscape_letter {letter c : Char} (known : letterEscape? letter = some c)
    (rest : List Char) : readEscape (letter :: rest) = .ok (c, rest) := by
  unfold readEscape
  split
  case h_1 noneLeft => cases noneLeft
  case h_2 code unicode =>
      cases unicode
      cases known
  case h_3 c' rest' other same =>
      cases same
      rw [known]

theorem readEscape_control {c : Char} (control : c.toNat < 0x20) (rest : List Char) :
    readEscape ('u' :: '0' :: '0' :: hexDigit (c.toNat / 16) :: hexDigit (c.toNat % 16) :: rest) =
      .ok (c, rest) := by
  have notLow : isLowSurrogate c.toNat = false := by simp [isLowSurrogate]; omega
  have notHigh : isHighSurrogate c.toNat = false := by simp [isHighSurrogate]; omega
  have byte : c.toNat < 0x100 := by omega
  simp [readEscape, readHex_byte byte, notLow, notHigh, Char.ofNat_toNat]

/-- The characters whose escape is a letter after the backslash. -/
def lettered : List Char := ['"', '\\', '\x08', '\x0c', '\n', '\r', '\t']

theorem escape_of_lettered {c : Char} (h : c ∈ lettered) :
    ∃ letter, escape c = ['\\', letter] ∧ letterEscape? letter = some c := by
  simp only [lettered, List.mem_cons, List.not_mem_nil, or_false] at h
  rcases h with rfl | rfl | rfl | rfl | rfl | rfl | rfl <;> exact ⟨_, rfl, rfl⟩

theorem escape_of_control {c : Char} (unlettered : c ∉ lettered) (control : c.toNat < 0x20) :
    escape c = ['\\', 'u', '0', '0', hexDigit (c.toNat / 16), hexDigit (c.toNat % 16)] := by
  simp only [lettered, List.mem_cons, List.not_mem_nil, or_false, not_or] at unlettered
  simp [escape, unlettered, control]

theorem control_of_escaped {c : Char} (special : c ∈ escaped) (unlettered : c ∉ lettered) :
    c.toNat < 0x20 := by
  simp only [escaped, List.mem_cons, List.mem_map, List.mem_range] at special
  rcases special with rfl | rfl | ⟨n, small, rfl⟩
  · simp [lettered] at unlettered
  · simp [lettered] at unlettered
  · have codes : ∀ n < 0x20, (Char.ofNat n).toNat < 0x20 := by decide
    exact codes n small

/-- An escape is read as the character it stands for. -/
theorem readEscape_escape {c : Char} (special : c ∈ escaped) (rest : List Char) :
    ∃ code, escape c = '\\' :: code ∧ readEscape (code ++ rest) = .ok (c, rest) := by
  by_cases named : c ∈ lettered
  · obtain ⟨letter, form, known⟩ := escape_of_lettered named
    exact ⟨[letter], form, readEscape_letter known rest⟩
  · have control := control_of_escaped special named
    exact ⟨_, escape_of_control named control, readEscape_control control rest⟩

theorem readString_slash {cs after : List Char} {c : Char} (read : readEscape cs = .ok (c, after)) :
    readString ('\\' :: cs) = (readString after).map fun (more, last) => (c :: more, last) := by
  rw [readString, if_neg (by decide), if_pos rfl]
  split
  case h_1 fault failed => cases read.symm.trans failed
  case h_2 value rest succeeded =>
      cases read.symm.trans succeeded
      rfl

theorem mem_escaped_of_control {c : Char} (control : c.toNat < 0x20) : c ∈ escaped := by
  simp only [escaped, List.mem_cons, List.mem_map, List.mem_range]
  exact .inr (.inr ⟨c.toNat, control, Char.ofNat_toNat c⟩)

theorem readString_escape (c : Char) (rest : List Char) :
    readString (escape c ++ rest) = (readString rest).map fun (more, last) => (c :: more, last) := by
  by_cases special : c ∈ escaped
  · obtain ⟨code, form, read⟩ := readEscape_escape special rest
    rw [form, List.cons_append, readString_slash read]
  · have noQuote : c ≠ '"' := fun same => special (same ▸ by decide)
    have noSlash : c ≠ '\\' := fun same => special (same ▸ by decide)
    have printable : ¬ c.toNat < 0x20 := fun control => special (mem_escaped_of_control control)
    rw [escape_eq_self special, List.singleton_append, readString, if_neg noQuote, if_neg noSlash,
      if_neg printable]

/-- A quoted text is read back from inside its quotes. -/
theorem readString_escaped (cs rest : List Char) :
    readString (cs.flatMap escape ++ '"' :: rest) = .ok (cs, rest) := by
  induction cs with
  | nil => rw [List.flatMap_nil, List.nil_append, readString, if_pos rfl]
  | cons c cs ih =>
      rw [List.flatMap_cons, List.append_assoc, readString_escape, ih]
      rfl

/-! ## Integers -/

/-- What follows a number and cannot carry it on. -/
def EndsNumber (rest : List Char) : Prop :=
  ∀ c ∈ rest.head?, ¬ c.isDigit ∧ c ∉ ['.', 'e', 'E']

theorem EndsNumber.digitsEnd {rest : List Char} (ends : EndsNumber rest) : Text.DigitsEnd rest :=
  fun c hc => (ends c hc).1

theorem scanWhole_numeral (n : Nat) {rest : List Char} (ends : Text.DigitsEnd rest) :
    scanWhole (Text.numeral n ++ rest) = .ok (Text.numeral n, rest) := by
  have span := Text.spanDigits_append (fun c => Text.isDigit_of_mem_numeral (n := n)) ends
  have digits : scanDigits (Text.numeral n ++ rest) = .ok (Text.numeral n, rest) := by
    cases shape : Text.numeral n with
    | nil => exact absurd shape (Text.numeral_ne_nil n)
    | cons d more => simp only [scanDigits, shape ▸ span]
  unfold scanWhole
  rw [digits]
  split
  case h_1 second more last leading =>
      -- only zero has a zero in front, and its numeral is one digit long
      have long : Text.numeral n = '0' :: second :: more := (Prod.mk.inj (Except.ok.inj leading)).1
      have zero : n = 0 := Text.eq_zero_of_head_numeral (by rw [long]; rfl)
      subst zero
      cases long
  case h_2 => rfl

theorem scanFraction_of_ends {rest : List Char} (ends : EndsNumber rest) :
    scanFraction rest = .ok ([], rest) := by
  unfold scanFraction
  split
  case h_1 more => exact absurd (by simp) (ends '.' rfl).2
  case h_2 => rfl

theorem scanExponent_of_ends {rest : List Char} (ends : EndsNumber rest) :
    scanExponent rest = .ok (none, rest) := by
  cases rest with
  | nil => rfl
  | cons c more =>
      have noLetter : ¬ (c = 'e' ∨ c = 'E') := fun letter => (ends c rfl).2 (by simp [letter])
      simp only [scanExponent, if_neg noLetter]

theorem scanNumber_unsigned (n : Nat) {rest : List Char} (ends : EndsNumber rest) :
    scanNumber (Text.numeral n ++ rest) = .ok (⟨false, Text.numeral n, [], none⟩, rest) := by
  have whole := scanWhole_numeral n ends.digitsEnd
  cases shape : Text.numeral n with
  | nil => exact absurd shape (Text.numeral_ne_nil n)
  | cons d more =>
      have digit : d.isDigit := Text.isDigit_of_mem_numeral (n := n) (by simp [shape])
      have unsigned : d ≠ '-' := by
        intro same
        subst same
        cases digit
      rw [shape, List.cons_append] at whole
      simp only [scanNumber, List.cons_append]
      split
      case h_1 after signed => exact absurd (List.cons.inj signed).1 unsigned
      case h_2 =>
          simp only [whole, scanFraction_of_ends ends, scanExponent_of_ends ends, bind, Except.bind,
            pure, Except.pure]

theorem scanNumber_negative (n : Nat) {rest : List Char} (ends : EndsNumber rest) :
    scanNumber ('-' :: (Text.numeral n ++ rest)) = .ok (⟨true, Text.numeral n, [], none⟩, rest) := by
  simp only [scanNumber, scanWhole_numeral n ends.digitsEnd, scanFraction_of_ends ends,
    scanExponent_of_ends ends, bind, Except.bind, pure, Except.pure]

theorem integer?_unsigned {n : Nat} (isWord : IsWord n) :
    NumberToken.integer? ⟨false, Text.numeral n, [], none⟩ = some (.integer n isWord) := by
  simp [NumberToken.integer?, Text.numeralValue_numeral, isWord]

theorem integer?_negative {n : Nat} (nonzero : n ≠ 0) (isWord : IsWord (-n)) :
    NumberToken.integer? ⟨true, Text.numeral n, [], none⟩ = some (.integer (-n) isWord) := by
  simp [NumberToken.integer?, Text.numeralValue_numeral, nonzero, isWord]

theorem readNumber_of_integer? {cs rest : List Char} {token : NumberToken} {n : Number}
    (scanned : scanNumber cs = .ok (token, rest)) (whole : token.integer? = some n) :
    readNumber cs = .ok (n, rest) := by
  simp only [readNumber, scanned, NumberToken.value?, whole, bind, Except.bind, pure, Except.pure]

/-- An integer is read back from its digits. -/
theorem readNumber_integer (n : Int) (isWord : IsWord n) {rest : List Char} (ends : EndsNumber rest) :
    readNumber (Text.integer n ++ rest) = .ok (.integer n isWord, rest) := by
  unfold Text.integer
  split
  case isTrue negative =>
      obtain ⟨m, rfl⟩ : ∃ m : Nat, n = -m := ⟨n.natAbs, by omega⟩
      have nonzero : m ≠ 0 := by omega
      rw [Int.natAbs_neg, Int.natAbs_natCast, List.cons_append]
      exact readNumber_of_integer? (scanNumber_negative m ends) (integer?_negative nonzero isWord)
  case isFalse natural =>
      obtain ⟨m, rfl⟩ : ∃ m : Nat, n = m := ⟨n.natAbs, by omega⟩
      rw [Int.natAbs_natCast]
      exact readNumber_of_integer? (scanNumber_unsigned m ends) (integer?_unsigned isWord)

end SimulationScript.Json
