namespace TouchScript.Json.Escape

def hexDigit (n : Nat) : Char :=
  if n < 10 then Char.ofNat (0x30 + n) else Char.ofNat (0x57 + n)

/-- The value of a hexadecimal digit in either case. -/
def hexValue? (c : Char) : Option Nat :=
  let n := c.toNat
  if 0x30 ≤ n ∧ n ≤ 0x39 then some (n - 0x30)
  else if 0x41 ≤ n ∧ n ≤ 0x46 then some (n - 0x37)
  else if 0x61 ≤ n ∧ n ≤ 0x66 then some (n - 0x57)
  else none

/-- How one character is written inside quotes: a quote, a backslash and the control characters
below a space with a backslash, all others as they are. -/
def escapeChar (c : Char) : List Char :=
  if c = '"' then ['\\', '"']
  else if c = '\\' then ['\\', '\\']
  else if c = '\x08' then ['\\', 'b']
  else if c = '\t' then ['\\', 't']
  else if c = '\n' then ['\\', 'n']
  else if c = '\x0c' then ['\\', 'f']
  else if c = '\r' then ['\\', 'r']
  else if c.toNat < 0x20 then
    ['\\', 'u', '0', '0', hexDigit (c.toNat / 16), hexDigit (c.toNat % 16)]
  else [c]

def escape (s : List Char) : List Char :=
  s.flatMap escapeChar

/-- One unit of a string as written: a character, or a 16-bit code from an escape. -/
inductive TextUnit where
  | plain (c : Char)
  | code (n : Nat)

/-- The character a one-letter escape stands for. -/
def shortEscape? (c : Char) : Option Char :=
  if c = '"' ∨ c = '\\' ∨ c = '/' then some c
  else if c = 'b' then some '\x08'
  else if c = 'f' then some '\x0c'
  else if c = 'n' then some '\n'
  else if c = 'r' then some '\r'
  else if c = 't' then some '\t'
  else none

/-- The code that four hexadecimal digits stand for. -/
def codeOf? (a b c d : Char) : Option Nat := do
  let a ← hexValue? a
  let b ← hexValue? b
  let c ← hexValue? c
  let d ← hexValue? d
  return ((a * 16 + b) * 16 + c) * 16 + d

/-- The units of the text between two quotes; none if an escape is malformed or a control character
stands bare. A string that is skipped needs no more than this; `assemble?` combines the units. -/
def units? : List Char → Option (List TextUnit)
  | [] => some []
  | '\\' :: 'u' :: a :: b :: c :: d :: s =>
    (codeOf? a b c d).bind fun n => (units? s).map (.code n :: ·)
  | '\\' :: c :: s => (shortEscape? c).bind fun e => (units? s).map (.plain e :: ·)
  | c :: s =>
    if c = '\\' ∨ c.toNat < 0x20 then none else (units? s).map (.plain c :: ·)

def isHigh (n : Nat) : Bool :=
  decide (0xD800 ≤ n) && decide (n ≤ 0xDBFF)

def isLow (n : Nat) : Bool :=
  decide (0xDC00 ≤ n) && decide (n ≤ 0xDFFF)

/-- The characters that units stand for; none if half of a surrogate pair stands alone. -/
def assemble? : List TextUnit → Option (List Char)
  | [] => some []
  | .plain c :: s => (assemble? s).map (c :: ·)
  | .code high :: .code low :: s =>
    if isHigh high && isLow low then
      let n := 0x10000 + (high - 0xD800) * 0x400 + (low - 0xDC00)
      (assemble? s).map (Char.ofNat n :: ·)
    else if isHigh high || isLow high then none
    else (assemble? (.code low :: s)).map (Char.ofNat high :: ·)
  | .code n :: s =>
    if isHigh n || isLow n then none else (assemble? s).map (Char.ofNat n :: ·)

end TouchScript.Json.Escape
