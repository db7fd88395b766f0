import TouchScript.Context

namespace TouchScript

inductive Comparison where
  | equal
  | unequal
  | atLeast
  | atMost
  | above
  | below
deriving DecidableEq

namespace Comparison

/-- The comparisons in the order in which a text is searched for them. The ones of two characters
come first, so that `>=` is never taken for `>`. -/
def all : List Comparison := [equal, unequal, atLeast, atMost, above, below]

def symbol : Comparison → String
  | .equal => "=="
  | .unequal => "!="
  | .atLeast => ">="
  | .atMost => "<="
  | .above => ">"
  | .below => "<"

/-- Decides a comparison: equality is equality of text, order is order of numbers. -/
def holds (op : Comparison) (v w : Value) : Bool :=
  match op with
  | .equal => v.toText == w.toText
  | .unequal => v.toText != w.toText
  | .atLeast => decide (w.toNumber.val ≤ v.toNumber.val)
  | .atMost => decide (v.toNumber.val ≤ w.toNumber.val)
  | .above => decide (w.toNumber.val < v.toNumber.val)
  | .below => decide (v.toNumber.val < w.toNumber.val)

end Comparison

/-- Why a text is no condition. -/
inductive ConditionError where
  | empty
  | missingOperand (op : Comparison)
deriving DecidableEq

def ConditionError.message : ConditionError → String
  | .empty => "empty condition"
  | .missingOperand op => s!"missing operand around '{op.symbol}'"

/-- A condition: one comparison of two operands, or a single token. It is read from its text first,
which fails or not whatever the variables hold, and then decided in a context. -/
inductive Condition where
  | compare (op : Comparison) (lhs rhs : String)
  | token (word : String)
deriving DecidableEq

namespace Condition

/-- Reads a condition. The first comparison in the order of `Comparison.all` that occurs anywhere
divides the text, at its first occurrence. -/
def read (s : String) : Except ConditionError Condition :=
  let text := Text.trim s
  if text = "" then .error .empty
  else
    match Comparison.all.findSome? fun op => (Text.sidesOf op.symbol text).map fun p => (op, p) with
    | some (op, lhs, rhs) =>
      if lhs = "" ∨ rhs = "" then .error (.missingOperand op) else .ok (.compare op lhs rhs)
    | none => .ok (.token text)

def holds (ctx : Context) : Condition → Bool
  | .compare op lhs rhs => op.holds (ctx.resolve lhs) (ctx.resolve rhs)
  | .token word => (ctx.resolve word).isTruthy

def decide? (ctx : Context) (s : String) : Except ConditionError Bool :=
  (read s).map (holds ctx)

/-- Reads and decides a condition; a text that is no condition counts as false. -/
def isTrue (ctx : Context) (s : String) : Bool :=
  match decide? ctx s with
  | .ok b => b
  | .error _ => false

end Condition

end TouchScript
