import SimulationScript.Json.Fault

/-! # Quoted JSON strings

Strings between double quotes. Quotes, backslashes and control characters are escaped when a
string is written; every escape of the grammar is understood when one is read.
-/

namespace SimulationScript.Json

/-- The lower-case hexadecimal digit of a number below sixteen. -/
def hexDigit (n : Nat) : Char :=
  if n < 10 then Char.ofNat (48 + n) else Char.ofNat (87 + n)

/-- The value of a hexadecimal digit in either case. -/
def hexValue? (c : Char) : Option Nat :=
  let n := c.toNat
  if 48 ≤ n ∧ n ≤ 57 then some (n - 48)
  else if 97 ≤ n ∧ n ≤ 102 then some (n - 87)
  else if 65 ≤ n ∧ n ≤ 70 then some (n - 55)
  else none

/-- One character as it stands between quotes. -/
def escape (c : Char) : List Char :=
  if c = '"' then ['\\', '"']
  else if c = '\\' then ['\\', '\\']
  else if c = '\x08' then ['\\', 'b']
  else if c = '\x0c' then ['\\', 'f']
  else if c = '\n' then ['\\', 'n']
  else if c = '\r' then ['\\', 'r']
  else if c = '\t' then ['\\', 't']
  else if c.toNat < 0x20 then
    ['\\', 'u', '0', '0', hexDigit (c.toNat / 16), hexDigit (c.toNat % 16)]
  else [c]

def quote (cs : List Char) : List Char :=
  '"' :: cs.flatMap escape ++ ['"']

def letterEscape? (c : Char) : Option Char :=
  if c = '"' then some '"'
  else if c = '\\' then some '\\'
  else if c = '/' then some '/'
  else if c = 'b' then some '\x08'
  else if c = 'f' then some '\x0c'
  else if c = 'n' then some '\n'
  else if c = 'r' then some '\r'
  else if c = 't' then some '\t'
  else none

/-- The number of bytes that a text takes up in UTF-8. -/
def byteCount (cs : List Char) : Nat :=
  cs.foldr (fun c count => c.utf8Size + count) 0

/-- The number written with four hexadecimal digits. A text with fewer than four bytes left ends
    too early, whatever those bytes are. -/
def readHex : TextReader Nat
  | a :: b :: c :: d :: rest =>
    match hexValue? a, hexValue? b, hexValue? c, hexValue? d with
    | some a, some b, some c, some d => .ok (4096 * a + 256 * b + 16 * c + d, rest)
    | _, _, _, _ => .error .malformed
  | short =>
    .error (if byteCount short < 4 then .truncated else .malformed)

def isHighSurrogate (n : Nat) : Bool :=
  0xd800 ≤ n && n ≤ 0xdbff

def isLowSurrogate (n : Nat) : Bool :=
  0xdc00 ≤ n && n ≤ 0xdfff

/-- The rest of a surrogate pair whose first unit has been read. -/
def readLowSurrogate (high : Nat) : TextReader Char
  | [] => .error .truncated
  | '\\' :: [] => .error .truncated
  | '\\' :: 'u' :: rest =>
    match readHex rest with
    | .error fault => .error fault
    | .ok (low, rest) =>
      if isLowSurrogate low then
        .ok (Char.ofNat (0x10000 + 0x400 * (high - 0xd800) + (low - 0xdc00)), rest)
      else .error .malformed
  | _ => .error .malformed

/-- The character that an escape stands for, from the character after the backslash. -/
def readEscape : TextReader Char
  | [] => .error .truncated
  | 'u' :: rest =>
    match readHex rest with
    | .error fault => .error fault
    | .ok (unit, rest) =>
      if isLowSurrogate unit then .error .malformed
      else if isHighSurrogate unit then readLowSurrogate unit rest
      else .ok (Char.ofNat unit, rest)
  | c :: rest =>
    match letterEscape? c with
    | some value => .ok (value, rest)
    | none => .error .malformed

theorem length_readHex {cs rest : List Char} {n : Nat} (h : readHex cs = .ok (n, rest)) :
    rest.length < cs.length := by
  unfold readHex at h
  split at h
  · split at h
    · simp only [Except.ok.injEq, Prod.mk.injEq] at h
      simp only [← h.2, List.length_cons]
      omega
    · cases h
  · cases h

theorem length_readLowSurrogate {high : Nat} {cs rest : List Char} {c : Char}
    (h : readLowSurrogate high cs = .ok (c, rest)) : rest.length < cs.length := by
  unfold readLowSurrogate at h
  split at h
  · cases h
  · cases h
  · split at h
    · cases h
    · rename_i low after hex
      have := length_readHex hex
      split at h
      · simp only [Except.ok.injEq, Prod.mk.injEq] at h
        simp only [← h.2, List.length_cons]
        omega
      · cases h
  · cases h

/-- An escape takes up text. -/
theorem length_readEscape {cs rest : List Char} {c : Char}
    (h : readEscape cs = .ok (c, rest)) : rest.length < cs.length := by
  unfold readEscape at h
  split at h
  · cases h
  · split at h
    · cases h
    · rename_i unit after hex
      have := length_readHex hex
      split at h
      · cases h
      · split at h
        · have := length_readLowSurrogate h
          simp only [List.length_cons]
          omega
        · simp only [Except.ok.injEq, Prod.mk.injEq] at h
          simp only [← h.2, List.length_cons]
          omega
  · split at h
    · simp only [Except.ok.injEq, Prod.mk.injEq] at h
      simp [← h.2]
    · cases h

/-- The characters of a string, from the one after the opening quote, and what follows the closing
    quote. -/
def readString (cs : List Char) : Except TextFault (List Char × List Char) :=
  match cs with
  | [] => .error .truncated
  | c :: rest =>
    if c = '"' then .ok ([], rest)
    else if c = '\\' then
      match _escape : readEscape rest with
      | .error fault => .error fault
      | .ok (value, after) => (readString after).map fun (more, last) => (value :: more, last)
    else if c.toNat < 0x20 then .error .malformed
    else (readString rest).map fun (more, last) => (c :: more, last)
termination_by cs.length
decreasing_by
  · have := length_readEscape _escape
    simp only [List.length_cons]
    omega
  · simp

/-- What follows the closing quote of a string nobody looks at. Escapes have to be spelled
    correctly, but surrogates need no partner. -/
def skipString (cs : List Char) : Except TextFault (List Char) :=
  match cs with
  | [] => .error .truncated
  | c :: rest =>
    if c = '"' then .ok rest
    else if c = '\\' then
      match rest with
      | [] => .error .truncated
      | 'u' :: digits =>
        match _hex : readHex digits with
        | .error fault => .error fault
        | .ok (_, after) => skipString after
      | letter :: after =>
        if (letterEscape? letter).isSome then skipString after else .error .malformed
    else if c.toNat < 0x20 then .error .malformed
    else skipString rest
termination_by cs.length
decreasing_by
  · have := length_readHex _hex
    simp only [List.length_cons]
    omega
  · simp only [List.length_cons]
    omega
  · simp

end SimulationScript.Json
