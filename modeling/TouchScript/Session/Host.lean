import TouchScript.Command
import TouchScript.Recorder
import TouchScript.Run

namespace TouchScript

/-- An operation of the host. Runs of `start` are known to the host by handles, counted from
zero. -/
inductive HostOp where
  | start (commands : List Command)
  | sleep (ms : Millis)
  | stop
  | cancel (handle : Nat)
  | isRunning (handle : Nat)
  | wait (handle : Nat)
  /-- Runs a script and waits for it, with timers from now on that cancel it or stop the active
  run. -/
  | run (commands : List Command) (cancelled : Bool) (cancelAfter stopAfter : Option Millis)
  | clear
  | settings

/-- What an operation answers. -/
inductive HostReply where
  | done
  | handle (handle : Nat)
  | running (b : Bool)
  | report (report : Report)
  | lost
  | noHandle
  | ran (report : Report) (cancelled : Bool)
  | settings (settings : Settings)

/-- The answer to an operation, the calls recorded since the operation before it, and the time. -/
structure HostAnswer where
  reply : HostReply
  fresh : List Entry
  now : Nat

/-- What the host looks after while it runs a script itself. -/
inductive Charge where
  | run
  | cancelTimer
  | stopTimer

/-- The order in which the host looks after its charges. The first time it begins with the run, and
then each time with the charge that came second before, so that none of them has to stand behind
the others for ever. -/
def Charge.order (round : Nat) : List Charge :=
  [Charge.run, .cancelTimer, .stopTimer].rotateLeft round

/-- A run of the host itself, with the times of the timers that have not fired. -/
structure HostedRun where
  id : Nat
  cancelAt : Option Nat
  stopAt : Option Nat
  /-- How often the host has gone round its charges. -/
  rounds : Nat
  /-- The charges that the host still has to look after in its turn. -/
  todo : List Charge

namespace HostedRun

/-- Begins to go round the charges. -/
def goRound (h : HostedRun) : HostedRun :=
  { h with rounds := h.rounds + 1, todo := Charge.order h.rounds }

def timers (h : HostedRun) : List Nat :=
  h.cancelAt.toList ++ h.stopAt.toList

end HostedRun

/-- What the host is doing. It carries out a list of operations, one after the other, and answers
each. -/
inductive Host where
  /-- Goes on with its next operation. -/
  | acting
  | sleeping (time : Nat)
  | waiting (handle id : Nat)
  | running (hosted : HostedRun)

namespace Host

def isRunning (host : Host) (id : Nat) : Bool :=
  match host with
  | .running hosted => hosted.id == id
  | _ => false

def isWaitingFor (host : Host) (id : Nat) : Bool :=
  match host with
  | .waiting _ awaited => awaited == id
  | _ => false

/-- The moments at which the host could go on. -/
def moments : Host → List Nat
  | .sleeping time => [time]
  | .running hosted => hosted.timers
  | .acting | .waiting _ _ => []

end Host

end TouchScript
