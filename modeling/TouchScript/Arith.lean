import TouchScript.Ranged

namespace TouchScript

/-- An operator of a binary `set`. What it computes is exact or refused. -/
inductive Operator where
  | add
  | sub
  | mul
  | div
deriving DecidableEq

namespace Operator

def all : List Operator := [add, sub, mul, div]

def symbol : Operator → String
  | .add => "+"
  | .sub => "-"
  | .mul => "*"
  | .div => "/"

/-- The operator a token stands for. -/
def ofSymbol? (s : String) : Option Operator :=
  all.find? fun op => op.symbol == s

/-- The exact result over the integers; a quotient is cut toward zero and needs a divisor. -/
def integral? : Operator → Int → Int → Option Int
  | .add, a, b => some (a + b)
  | .sub, a, b => some (a - b)
  | .mul, a, b => some (a * b)
  | .div, a, b => if b = 0 then none else some (a.tdiv b)

/-- The exact result, if there is one and it is in the range of numbers. -/
def compute? (op : Operator) (a b : Number) : Option Number :=
  (op.integral? a.val b.val).bind Ranged.ofInt?

end Operator

end TouchScript
