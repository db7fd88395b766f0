import TouchScript.Text.Blank
import TouchScript.Text.Decimal

namespace TouchScript

/-- A value of a script variable. Scripts are untyped: every value can be read as text and as a
number. A value keeps the exact text it was written with. -/
inductive Value where
  | number (n : Number)
  | text (s : String)
deriving DecidableEq

namespace Value

/-- Reads a token. An integer in canonical form becomes a number; everything else, `007` and `+5`
included, stays text and keeps the blanks around it. -/
def ofLiteral (token : String) : Value :=
  let trimmed := Text.trim token
  match (Text.signed? trimmed : Option Number) with
  | some n => if Text.ofInt n.val = trimmed then .number n else .text token
  | none => .text token

def toText : Value → String
  | .number n => Text.ofInt n.val
  | .text s => s

/-- The value as a number; text that is no integer in range counts as zero. -/
def toNumber : Value → Number
  | .number n => n
  | .text s => (Text.signed? (Text.trim s)).getD Number.zero

/-- Whether a value on its own counts as true: only `true` and `1` do. -/
def isTruthy : Value → Bool
  | .number n => n.val == 1
  | .text s => s == "true" || s == "1"

/-- Whether two values are equal for a script: two numbers by value, otherwise by text. -/
def same : Value → Value → Bool
  | .number a, .number b => a.val == b.val
  | v, w => v.toText == w.toText

end Value

end TouchScript
