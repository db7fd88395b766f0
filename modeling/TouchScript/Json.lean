import TouchScript.Ranged
import TouchScript.Binary64.Shortest

namespace TouchScript

/-- A number as written: a sign, the digits before the point, the digits after it (none without a
point) and the exponent with its sign. -/
structure NumberText where
  negative : Bool
  whole : List Char
  fraction : List Char
  exponent : Option (Bool × List Char)
deriving DecidableEq

/-- A JSON value. Objects keep their fields in order and keep repeated keys, and a number keeps the
digits it was written with, because what a reader makes of them depends on what it expects. A string
or key whose escapes name half of a surrogate pair stands for no text; it is `garbled`, or a key
`none`, and can be skipped but never read. -/
inductive Json where
  | null
  | bool (b : Bool)
  | number (n : NumberText)
  | string (s : String)
  | garbled
  | array (items : List Json)
  | object (fields : List (Option String × Json))

namespace NumberText

/-- The digits from the front of `s` and what follows them. -/
def spanDigits (s : List Char) : List Char × List Char :=
  (s.takeWhile Char.isDigit, s.dropWhile Char.isDigit)

def readExponent? : List Char → Option (Option (Bool × List Char))
  | [] => some none
  | mark :: s =>
    if mark = 'e' ∨ mark = 'E' then
      let (negative, digits) :=
        match s with
        | '-' :: digits => (true, digits)
        | '+' :: digits => (false, digits)
        | digits => (false, digits)
      if digits.isEmpty || !digits.all Char.isDigit then none else some (some (negative, digits))
    else none

/-- The point with its digits and the exponent at the end of a number. -/
def readTail? (negative : Bool) (whole : List Char) : List Char → Option NumberText
  | '.' :: s =>
    let (fraction, rest) := spanDigits s
    if fraction.isEmpty then none
    else (readExponent? rest).map fun exponent => ⟨negative, whole, fraction, exponent⟩
  | s => (readExponent? s).map fun exponent => ⟨negative, whole, [], exponent⟩

/-- Reads a whole number text: no plus sign, no superfluous leading zero, and digits on both sides
of a point. -/
def read? (s : List Char) : Option NumberText :=
  let (negative, body) :=
    match s with
    | '-' :: body => (true, body)
    | body => (false, body)
  match spanDigits body with
  | ([], _) => none
  | ('0' :: _ :: _, _) => none
  | (whole, rest) => readTail? negative whole rest

def write (n : NumberText) : List Char :=
  let sign := if n.negative then ['-'] else []
  let point := if n.fraction.isEmpty then [] else '.' :: n.fraction
  let power :=
    match n.exponent with
    | none => []
    | some (negative, digits) => 'e' :: (if negative then '-' else '+') :: digits
  sign ++ n.whole ++ point ++ power

def ofInt (n : Int) : NumberText :=
  ⟨decide (n < 0), Nat.toDigits 10 n.natAbs, [], none⟩

/-- The integer a number stands for. Only a number written without point and exponent is an
integer, and a negative zero is none. -/
def toInt? (n : NumberText) : Option Int :=
  if n.fraction.isEmpty ∧ n.exponent = none then
    let size := Nat.ofDigitChars 10 n.whole 0
    if n.negative then if size = 0 then none else some (-(size : Int)) else some size
  else none

/-- Appends digits to a significand while it stays below `2 ^ 64`, and returns the digits that are
left. -/
def takeDigits (significand : Nat) : List Char → Nat × List Char
  | [] => (significand, [])
  | c :: s =>
    let longer := Nat.ofDigitChars 10 [c] significand
    if longer < Nat.pow 2 64 then takeDigits longer s else (significand, c :: s)

/-- The binary number a text stands for, from a significand of 64 bits and a power of ten; none when
it is too large. An exponent of more than 31 bits makes any significand vanish or overflow. -/
def toBinary64? (n : NumberText) : Option Binary64 :=
  let (whole, beyond) := takeDigits 0 n.whole
  let (significand, dropped) := takeDigits whole n.fraction
  let places : Int := beyond.length - (n.fraction.length - dropped.length : Nat)
  match n.exponent with
  | none => Binary64.ofDecimal? n.negative significand places
  | some (negative, digits) =>
    let power := Nat.ofDigitChars 10 digits 0
    if 2147483647 < power then
      if significand = 0 ∨ negative then some ⟨n.negative, 0, -1074⟩ else none
    else
      Binary64.ofDecimal? n.negative significand
        (if negative then places - power else places + power)

/-- The text of a binary number: positional from `10 ^ -5` to below `10 ^ 16` with at least one
decimal, and with a signed exponent elsewhere. -/
def ofBinary64 (x : Binary64) : NumberText :=
  let d := x.shortest .toEven
  let leading := d.pointAt - 1
  if x.isZero ∨ (-5 ≤ leading ∧ leading < 16) then
    let (whole, fraction) := d.positional
    ⟨x.negative, whole, if fraction.isEmpty then ['0'] else fraction, none⟩
  else
    ⟨x.negative, d.chars.take 1, d.chars.drop 1,
      some (decide (leading < 0), Nat.toDigits 10 leading.natAbs)⟩

end NumberText

namespace Json

def ofInt (n : Int) : Json :=
  .number (.ofInt n)

def ofNat (n : Nat) : Json :=
  .number (.ofInt n)

def ofBinary64 (x : Binary64) : Json :=
  .number (.ofBinary64 x)

/-- An object with the given fields in the given order. -/
def record (fields : List (String × Json)) : Json :=
  .object (fields.map fun (name, value) => (some name, value))

end Json

end TouchScript
