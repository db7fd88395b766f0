import TouchScript.Command
import TouchScript.Recorder
import TouchScript.Settings

namespace TouchScript

/-- Why a command could not take effect, with its line. The run goes on with the next command. -/
inductive RunError where
  | labelNotFound (line : Nat) (label : String)
  | functionNotFound (line : Nat) (name : String)
  | callDepthExceeded (line : Nat) (name : String) (limit : CallDepth)
  | arithmetic (line : Nat) (left : Number) (op : Operator) (right : Number)
  | device (line : Nat) (keyword : String) (error : DeviceError)
deriving DecidableEq

namespace RunError

def line : RunError → Nat
  | .labelNotFound n _ | .functionNotFound n _ | .callDepthExceeded n _ _ | .arithmetic n _ _ _
  | .device n _ _ => n

/-- What went wrong, without the line. -/
def reason : RunError → String
  | .labelNotFound _ label => s!"label '{label}' not found"
  | .functionNotFound _ name => s!"function '{name}' is not defined"
  | .callDepthExceeded _ name limit =>
    s!"call to '{name}' exceeds maximum call depth {Text.ofInt limit.val}"
  | .arithmetic _ left op right =>
    s!"cannot compute {Text.ofInt left.val} {op.symbol} {Text.ofInt right.val}"
  | .device _ keyword error => s!"{keyword} failed: {error.message}"

def message (e : RunError) : String :=
  s!"line {e.line}: {e.reason}"

end RunError

end TouchScript
