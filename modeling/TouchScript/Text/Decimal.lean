import TouchScript.Ranged

namespace TouchScript

namespace Chars

/-- The canonical decimal form of an integer. -/
def ofInt : Int → List Char
  | Int.ofNat n => Nat.toDigits 10 n
  | Int.negSucc n => '-' :: Nat.toDigits 10 (n + 1)

/-- Reads a run of one or more ASCII digits. -/
def natural? (s : List Char) : Option Nat :=
  if s.isEmpty || !s.all Char.isDigit then none else some (Nat.ofDigitChars 10 s 0)

/-- Reads digits after an optional plus sign. -/
def unsigned? : List Char → Option Nat
  | '+' :: s => natural? s
  | s => natural? s

/-- Reads digits after an optional plus or minus sign. -/
def integer? : List Char → Option Int
  | '-' :: s => (natural? s).map fun n => -(n : Int)
  | s => (unsigned? s).map fun n => (n : Int)

end Chars

namespace Text

def ofInt (n : Int) : String :=
  String.ofList (Chars.ofInt n)

def ofNat (n : Nat) : String :=
  String.ofList (Nat.toDigits 10 n)

/-- Reads a signed integer of the wanted range. -/
def signed? {lo hi : Int} (s : String) : Option (Ranged lo hi) :=
  (Chars.integer? s.toList).bind Ranged.ofInt?

/-- Reads an integer of the wanted range that carries no minus sign. -/
def unsigned? {lo hi : Int} (s : String) : Option (Ranged lo hi) :=
  (Chars.unsigned? s.toList).bind fun n => Ranged.ofInt? n

end Text

end TouchScript
