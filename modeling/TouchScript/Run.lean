import TouchScript.Run.Clock
import TouchScript.Run.Device

namespace TouchScript

/-- What a run leaves behind: how it ended, how many commands it dispatched, which of them had no
effect, and the values of its variables. -/
structure Report where
  outcome : Outcome
  steps : Nat
  errors : List RunError
  values : Bindings Value

namespace Machine

/-- How a run that is over has ended. A stop of its own counts more than a cancellation. -/
def outcome (m : Machine) (cancelled : Bool) : Outcome :=
  if m.stopped then .stopped else if cancelled then .cancelled else .completed

/-- The report of a run that is over. -/
def report (m : Machine) (cancelled : Bool) : Report :=
  ⟨m.outcome cancelled, m.steps, m.errors.toList, m.context.values⟩

def allEvents (m : Machine) (cancelled : Bool) : List Event :=
  m.events.toList ++ [.finished (m.outcome cancelled) m.steps m.errors.size]

end Machine

/-- Whether a run goes on. -/
inductive RunStatus where
  | running
  | finished
  | crashed (o : Overflow)
deriving DecidableEq

/-- A run of a script against a device of its own, with the time it has slept and whether it has
been cancelled. A run need not end, so it is moved on by a number of turns at a time; once over it
stays as it is. -/
structure Run (σ : Type) where
  machine : Machine
  device : σ
  cancelled : Bool
  elapsed : Nat
  status : RunStatus

namespace Run

variable {σ : Type}

/-- A run before its first command. -/
def start (settings : Settings) (commands : List Command) (device : σ) (cancelled : Bool) :
    Run σ :=
  ⟨Machine.start settings commands, device, cancelled, 0, .running⟩

/-- Moves a run on by one turn. Nobody else is there, so sleeping only adds to the time. -/
def step (settings : Settings) (d : Device σ) (run : Run σ) : Run σ :=
  match run.status with
  | .running =>
    let turn := run.machine.turn settings d run.device run.cancelled
    let moved : Run σ :=
      { run with machine := turn.machine, device := turn.device, cancelled := turn.cancelled }
    match turn.signal with
    | .proceed | .yield => moved
    | .sleep ms => { moved with elapsed := run.elapsed + Clock.sleepTime ms }
    | .finished => { moved with status := .finished }
    | .crashed o => { moved with status := .crashed o }
  | _ => run

/-- Moves a run on by `n` turns. -/
def steps (settings : Settings) (d : Device σ) : Nat → Run σ → Run σ
  | 0, run => run
  | n + 1, run => steps settings d n (run.step settings d)

def isOver (run : Run σ) : Bool :=
  run.status != .running

def report (run : Run σ) : Report :=
  run.machine.report run.cancelled

end Run

end TouchScript
