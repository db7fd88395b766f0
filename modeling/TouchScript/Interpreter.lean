import TouchScript.Run

namespace TouchScript

/-- How far a run has come. -/
inductive Phase where
  /-- Does not hold the device yet. -/
  | waiting
  /-- Holds the device. -/
  | running
  /-- Is over. -/
  | finished (report : Report)
  /-- Has broken down. -/
  | crashed (o : Overflow)

/-- A run that an interpreter knows. -/
structure Job where
  machine : Machine
  cancelled : Bool
  phase : Phase

/-- An interpreter, which owns a device and runs scripts on it one at a time: its runs in the order
of their creation, the one that the next start or stop cancels, the one that holds the device, and
the device. Runs are named by their place. A run takes turns only while it holds the device. -/
structure Interpreter (σ : Type) where
  settings : Settings
  jobs : List Job
  active : Option Nat
  holder : Option Nat
  device : σ

namespace Interpreter

variable {σ : Type}

def new (settings : Settings) (device : σ) : Interpreter σ :=
  ⟨settings, [], none, none, device⟩

def update (i : Interpreter σ) (id : Nat) (f : Job → Job) : Interpreter σ :=
  { i with jobs := i.jobs.modify id f }

/-- Cancels a run; one that is over is past caring. -/
def cancel (i : Interpreter σ) (id : Nat) : Interpreter σ :=
  i.update id fun job => { job with cancelled := true }

/-- Cancels the active run. -/
def stop (i : Interpreter σ) : Interpreter σ :=
  match i.active with
  | some id => { i.cancel id with active := none }
  | none => i

/-- Adds a run that waits for the device. -/
def enroll (i : Interpreter σ) (commands : List Command) (cancelled : Bool) :
    Nat × Interpreter σ :=
  let job : Job := ⟨Machine.start i.settings commands, cancelled, .waiting⟩
  (i.jobs.length, { i with jobs := i.jobs ++ [job] })

/-- Starts a run in place of the active one, which is cancelled. A run that is cancelled before it
gets the device ends without a single command. -/
def start (i : Interpreter σ) (commands : List Command) : Nat × Interpreter σ :=
  let (id, i) := i.stop.enroll commands false
  (id, { i with active := some id })

/-- Gives the device to a waiting run, if nobody holds it. -/
def acquire (i : Interpreter σ) (id : Nat) : Interpreter σ :=
  match i.holder, i.jobs[id]? with
  | none, some ⟨machine, cancelled, .waiting⟩ =>
    { i with jobs := i.jobs.set id ⟨machine, cancelled, .running⟩, holder := some id }
  | _, _ => i

/-- Gives the run that holds the device a turn. A run that is over gives the device back. -/
def advance (i : Interpreter σ) (d : Device σ) : Signal × Interpreter σ :=
  match i.holder with
  | none => (.proceed, i)
  | some id =>
    match i.jobs[id]? with
    | none => (.proceed, i)
    | some job =>
      let turn := job.machine.turn i.settings d i.device job.cancelled
      let phase :=
        match turn.signal with
        | .finished => .finished (turn.machine.report turn.cancelled)
        | .crashed o => .crashed o
        | _ => job.phase
      let holder :=
        match turn.signal with
        | .finished | .crashed _ => none
        | _ => some id
      (turn.signal,
        { i with
          jobs := i.jobs.set id ⟨turn.machine, turn.cancelled, phase⟩
          device := turn.device
          holder })

end Interpreter

end TouchScript
