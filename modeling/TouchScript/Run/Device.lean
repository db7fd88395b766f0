import TouchScript.Run.Machine

namespace TouchScript

/-- How a call ends: with a result, with an error that the run survives, or by breaking down. -/
inductive Reply (α : Type) where
  | ok (result : α)
  | error (e : DeviceError)
  | crash (o : Overflow)

/-- The reply to a call, how long the run has to sleep for it, if at all, and whether the run was
cancelled meanwhile. -/
structure Answer (α : Type) where
  reply : Reply α
  sleep : Option Nat
  cancels : Bool

/-- What a run needs from its surroundings, given by what it does in each of its states `σ`:
gestures carried out, images searched and lines logged. A log call has no result; what it makes
visible among the events is returned, together with whether the run was cancelled meanwhile. -/
structure Device (σ : Type) where
  perform : σ → Gesture Millis → Answer Unit × σ
  search : σ → String → Answer ImageMatch × σ
  tell : σ → LogCall Millis → List Event × Bool × σ

/-- What a machine does after a turn. -/
inductive Signal where
  /-- Goes on at once. -/
  | proceed
  /-- Goes on when some milliseconds have passed. -/
  | sleep (ms : Nat)
  /-- Goes on when everyone else who is ready has had a turn. -/
  | yield
  /-- Is over. -/
  | finished
  /-- Has broken down inside a call. -/
  | crashed (o : Overflow)
deriving DecidableEq

/-- What a turn leaves: the machine, the device, whether the run is cancelled, and what comes
next. -/
structure Turn (σ : Type) where
  machine : Machine
  device : σ
  cancelled : Bool
  signal : Signal

namespace Machine

variable {σ : Type}

/-- Goes on after a call according to its reply, or stays where it is when the call broke down. -/
@[inline]
def afterCall {α : Type} (m : Machine) (device : σ) (cancelled : Bool) (answer : Answer α)
    (resume : Except DeviceError α → Machine) : Turn σ :=
  let cancelled := cancelled || answer.cancels
  let signal := answer.sleep.elim .proceed .sleep
  match answer.reply with
  | .ok result => ⟨resume (.ok result), device, cancelled, signal⟩
  | .error e => ⟨resume (.error e), device, cancelled, signal⟩
  | .crash o => ⟨m, device, cancelled, .crashed o⟩

/-- One turn of a machine: a step of its own, or one exchange with its surroundings. -/
def turn (settings : Settings) (d : Device σ) (m : Machine) (device : σ) (cancelled : Bool) :
    Turn σ :=
  match m.control with
  | .fetch => ⟨m.fetch settings cancelled, device, cancelled, .proceed⟩
  | .again => ⟨m.again settings cancelled, device, cancelled, .proceed⟩
  | .leave flow =>
    if m.isFinished then ⟨m, device, cancelled, .finished⟩
    else ⟨m.leave flow, device, cancelled, .proceed⟩
  | .perform line g =>
    let (answer, device) := d.perform device g
    m.afterCall device cancelled answer (m.performed settings line g)
  | .search line lookup =>
    let (answer, device) := d.search device lookup.path
    m.afterCall device cancelled answer (m.searched line lookup)
  | .tell call =>
    let (events, cancels, device) := d.tell device call
    ⟨(events.foldl note m).next, device, cancelled || cancels, .proceed⟩
  | .pause duration => ⟨m.next, device, cancelled, .sleep duration.toNat⟩
  | .yield => ⟨m.goOn .again, device, cancelled, .yield⟩

end Machine

end TouchScript
