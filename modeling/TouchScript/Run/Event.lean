import TouchScript.Condition
import TouchScript.Run.Error
import TouchScript.Script.Fault

namespace TouchScript

inductive Outcome where
  | completed
  | stopped
  | cancelled
deriving DecidableEq

def Outcome.name : Outcome → String
  | .completed => "Completed"
  | .stopped => "Stopped"
  | .cancelled => "Cancelled"

/-- How important an event is. -/
inductive Level where
  | warn
  | info
  | debug
deriving DecidableEq

def Level.name : Level → String
  | .warn => "WARN"
  | .info => "INFO"
  | .debug => "DEBUG"

/-- What reading and running a script reports while it happens. The last three are what a script
says when its log goes to the events. -/
inductive Event where
  | skippedLine (line : Nat) (fault : Fault)
  | dispatched (line : Nat) (keyword : String)
  | malformedCondition (condition : String) (error : ConditionError)
  | failed (error : RunError)
  | jumped (line : Nat) (label : String) (target : LabelTarget)
  | read (line : Nat) (name : String) (value : Value)
  | readUnset (line : Nat) (name : String)
  | searched (line : Nat) (path : String) (found : Bool)
  | stopRequested (line : Nat)
  | finished (outcome : Outcome) (steps errors : Nat)
  | said (text : String)
  | saidVariable (name value : String)
  | saidOverlay (text : String) (duration : Millis)
deriving DecidableEq

namespace Event

def ofParseError (e : ParseError) : Event :=
  .skippedLine e.line e.fault

def level : Event → Level
  | .skippedLine _ _ | .malformedCondition _ _ | .failed _ => .warn
  | .dispatched _ _ | .jumped _ _ _ | .read _ _ _ | .readUnset _ _ | .searched _ _ _ => .debug
  | .stopRequested _ | .finished _ _ _ | .said _ | .saidVariable _ _ | .saidOverlay _ _ => .info

def message : Event → String
  | .skippedLine _ _ => "skipping script line"
  | .dispatched _ _ => "dispatch"
  | .malformedCondition _ _ => "condition treated as false"
  | .failed _ => "command failed"
  | .jumped _ _ _ => "goto"
  | .read _ _ _ => "get"
  | .readUnset _ _ => "get: unset"
  | .searched _ _ _ => "image lookup"
  | .stopRequested _ => "script requested stop"
  | .finished _ _ _ => "run finished"
  | .said text => text
  | .saidVariable _ _ => "variable"
  | .saidOverlay text _ => s!"overlay: {text}"

def details : Event → List (String × String)
  | .skippedLine line fault => [("line", Text.ofNat line), ("error", fault.message)]
  | .dispatched line keyword => [("line", Text.ofNat line), ("command", keyword)]
  | .malformedCondition condition error => [("condition", condition), ("error", error.message)]
  | .failed error => [("line", Text.ofNat error.line), ("error", error.message)]
  | .jumped line label target =>
    [("line", Text.ofNat line), ("label", label), ("scope", Text.ofNat target.scope),
      ("index", Text.ofNat target.index)]
  | .read line name value =>
    [("line", Text.ofNat line), ("variable", name), ("value", value.toText)]
  | .readUnset line name => [("line", Text.ofNat line), ("variable", name)]
  | .searched line path found =>
    [("line", Text.ofNat line), ("path", path), ("found", if found then "true" else "false")]
  | .stopRequested line => [("line", Text.ofNat line)]
  | .finished outcome steps errors =>
    [("outcome", outcome.name), ("steps", Text.ofNat steps), ("errors", Text.ofNat errors)]
  | .said _ => []
  | .saidVariable name value => [("variable", name), ("value", value)]
  | .saidOverlay _ duration => [("duration_ms", Text.ofInt duration.val)]

/-- The channel of what a script itself says. -/
def channel? : Event → Option String
  | .said _ | .saidVariable _ _ | .saidOverlay _ _ => some "tapscript::script"
  | _ => none

end Event

end TouchScript
