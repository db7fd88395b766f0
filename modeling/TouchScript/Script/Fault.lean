import TouchScript.Text.Decimal

namespace TouchScript

/-- What is wrong with a line. A faulty line is reported and skipped; it never stops the reading of
the others. -/
inductive Fault where
  | unknownCommand (keyword : String)
  | arity (command expected : String) (found : Nat)
  | invalidInteger (field value : String)
  | missingArgument (command : String)
  | unknownOperator (symbol : String)
  | unexpectedElse
  | unexpectedTerminator (keyword : String)
  | mismatchedTerminator (found opener : String) (openedAt : Nat)
  | unterminatedBlock (opener : String) (openedAt : Nat)
deriving DecidableEq

namespace Fault

def message : Fault → String
  | .unknownCommand keyword => s!"unknown command '{keyword}'"
  | .arity command expected found =>
    s!"'{command}' expects {expected}, got {found} argument(s)"
  | .invalidInteger field value => s!"invalid integer for {field}: '{value}'"
  | .missingArgument command => s!"'{command}' requires an argument"
  | .unknownOperator symbol => s!"unknown operator '{symbol}' in set (expected + - * /)"
  | .unexpectedElse => "'else' without a matching 'if'"
  | .unexpectedTerminator keyword => s!"'{keyword}' without an open block"
  | .mismatchedTerminator found opener openedAt =>
    s!"'{found}' closes a '{opener}' block opened at line {openedAt}"
  | .unterminatedBlock opener openedAt =>
    s!"'{opener}' block opened at line {openedAt} is never closed"

/-- Whether a fault concerns the nesting of blocks and not the content of a line. -/
def isStructural : Fault → Bool
  | .unexpectedElse | .unexpectedTerminator _ | .mismatchedTerminator _ _ _
  | .unterminatedBlock _ _ => true
  | .unknownCommand _ | .arity _ _ _ | .invalidInteger _ _ | .missingArgument _
  | .unknownOperator _ => false

end Fault

/-- A fault with the line it was found on and the trimmed text of that line. -/
structure ParseError where
  line : Nat
  text : String
  fault : Fault
deriving DecidableEq

def ParseError.message (e : ParseError) : String :=
  s!"line {e.line}: {e.fault.message} (in '{e.text}')"

end TouchScript
