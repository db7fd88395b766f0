import TouchScript.Interpreter
import TouchScript.Run.Rehearsal
import TouchScript.Session.Host

namespace TouchScript

/-- The state of a session: a host with one interpreter, in virtual time. Everyone takes turns on
one thread. A turn lasts until its owner has to wait for something, lets others go first or is over.
Turns come in rounds: the host goes first if something that it waits for has happened, then the runs
that can go on, in the order of the queue. When nobody can go on, time jumps to the next moment at
which someone can. -/
structure Session where
  interpreter : Interpreter Rehearsal
  now : Nat
  host : Host
  /-- Whether something that the host waits for has happened. -/
  hostReady : Bool
  /-- Whether the host lets others go first. -/
  hostYielded : Bool
  /-- The started runs that can go on, in the order of their turns. -/
  queue : List Nat
  /-- The started runs that let others go first. -/
  yielded : List Nat
  /-- The runs that wait for the device, in the order of their coming. When nobody holds the device,
  it is the first of them who may take it. -/
  waiters : List Nat
  /-- The run that has the turn. -/
  turn : Option Nat
  /-- The number of waits that may still end within the turn. -/
  allowance : Nat
  /-- The number of turns of started runs in this round. -/
  served : Nat
  /-- The runs that sleep, and until when. -/
  sleepers : List (Nat × Nat)
  /-- The run of each handle, until the handle is used up. -/
  handles : List (Option Nat)
  ops : List HostOp
  answers : Array HostAnswer
  /-- The number of recorded calls that answers have shown. -/
  shown : Nat
  /-- Set when a run of the host itself has broken down, which ends the session. -/
  crashed : Option Overflow

namespace Session

/-- The number of waits that may end within one turn. Who wants to end one more lets others go
first; the host begins a new turn with each of its operations. -/
def turnAllowance : Nat := 128

/-- The largest number of turns that started runs have in one round. -/
def roundLength : Nat := 61

def start (settings : Settings) (device : Rehearsal) (ops : List HostOp) : Session where
  interpreter := Interpreter.new settings device
  now := 0
  host := .acting
  hostReady := false
  hostYielded := false
  queue := []
  yielded := []
  waiters := []
  turn := none
  allowance := turnAllowance
  served := 0
  sleepers := []
  handles := []
  ops := ops
  answers := #[]
  shown := 0
  crashed := none

def entries (s : Session) : Array Entry :=
  s.interpreter.device.recorder.entries

def answer (s : Session) (reply : HostReply) : Session :=
  let fresh := s.entries.toList.drop s.shown
  { s with
    host := .acting
    answers := s.answers.push ⟨reply, fresh, s.now⟩
    shown := s.entries.size }

/-- Lets the host have a turn in the next round. -/
def yieldHost (s : Session) : Session :=
  { s with hostYielded := true }

/-- Lets others go before a run, and the host with it if the run is its own. -/
def yieldRun (s : Session) (id : Nat) : Session :=
  if s.host.isRunning id then s.yieldHost else { s with yielded := s.yielded ++ [id] }

/-- Lets a run have its turn when it comes: in the queue, or with the host. -/
def wake (s : Session) (id : Nat) : Session :=
  if s.host.isRunning id then { s with hostReady := true } else { s with queue := s.queue ++ [id] }

/-- Counts a wait that has ended within the turn. -/
def spend (s : Session) : Session :=
  { s with allowance := s.allowance - 1 }

/-- Whether the device is free for a run: nobody holds it and nobody else came before. -/
def isFreeFor (s : Session) (id : Nat) : Bool :=
  s.interpreter.holder.isNone && (s.waiters.head?.getD id == id)

/-- Gives the turn to a run if what it waits for has happened: the end of its sleep, or the device,
for which it stands in line from now on. -/
def resume (s : Session) (id : Nat) : Session :=
  match s.sleepers.find? fun sleeper => sleeper.1 == id with
  | some (_, time) =>
    if s.allowance = 0 then s.yieldRun id
    else if time ≤ s.now then
      let sleepers := s.sleepers.filter fun sleeper => sleeper.1 != id
      { s.spend with sleepers, turn := some id }
    else s
  | none =>
    if s.interpreter.holder = some id then { s with turn := some id }
    else if s.allowance = 0 then s.yieldRun id
    else if s.isFreeFor id then
      { s.spend with
        interpreter := s.interpreter.acquire id
        waiters := s.waiters.filter fun waiter => waiter != id
        turn := some id }
    else if id ∈ s.waiters then s
    else { s with waiters := s.waiters ++ [id] }

/-- Lets a run sleep. A sleep of no length ends within the turn. -/
def sleep (s : Session) (id ms : Nat) : Session :=
  let sleepers := s.sleepers ++ [(id, s.now + Clock.sleepTime ms)]
  let asleep := { s with turn := none, sleepers }
  if s.allowance = 0 then asleep.yieldRun id
  else if ms = 0 then s.spend
  else asleep

/-- A run has ended: the device goes to the run that has waited longest, and the host learns of it
if it waits for the run. -/
def ended (s : Session) (id : Nat) : Session :=
  let s := { s with turn := none, hostReady := s.hostReady || s.host.isWaitingFor id }
  match s.waiters.head? with
  | some waiter => s.wake waiter
  | none => s

/-- Moves the run on whose turn it is. A run that breaks down takes the host with it if it is the
host's own. -/
def advance (s : Session) (id : Nat) : Session :=
  let (signal, interpreter) := s.interpreter.advance Rehearsal.device
  let s := { s with interpreter }
  match signal with
  | .proceed => s
  | .sleep ms => s.sleep id ms
  | .yield => yieldRun { s with turn := none } id
  | .finished => s.ended id
  | .crashed o => if s.host.isRunning id then { s with crashed := some o } else s.ended id

/-- The reply about a run that is over. -/
def replyOf (s : Session) (id : Nat) : Option HostReply :=
  match (s.interpreter.jobs[id]?).map Job.phase with
  | some (.finished report) => some (.report report)
  | some (.crashed _) => some .lost
  | _ => none

/-- The reply about a run of the host itself, when the run is over and its timers have fired. -/
def replyOfHosted (s : Session) (hosted : HostedRun) : Option HostReply :=
  match s.interpreter.jobs[hosted.id]? with
  | some ⟨_, cancelled, .finished report⟩ =>
    if hosted.timers.isEmpty then some (.ran report cancelled) else none
  | _ => none

/-- Lets the host look whether what it waits for has happened. -/
def look (s : Session) : Session :=
  match s.host with
  | .acting => s
  | .sleeping time => if time ≤ s.now then s.answer .done else s
  | .waiting handle id =>
    match s.replyOf id with
    | some reply => answer { s with handles := s.handles.set handle none } reply
    | none => s
  | .running hosted => { s with host := .running hosted.goRound }

/-- Fires a timer of the host if it is due. -/
def fire (s : Session) (timer : Option Nat) (act : Session → Session) : Session :=
  match timer with
  | some time =>
    if s.allowance = 0 then s.yieldHost
    else if time ≤ s.now then act s.spend
    else s
  | none => s

/-- Lets the host look after one of its charges. -/
def attend (s : Session) (hosted : HostedRun) : Charge → Session
  | .run => if (s.replyOf hosted.id).isSome then s else s.resume hosted.id
  | .cancelTimer =>
    s.fire hosted.cancelAt fun s =>
      { s with
        interpreter := s.interpreter.cancel hosted.id
        host := .running { hosted with cancelAt := none } }
  | .stopTimer =>
    s.fire hosted.stopAt fun s =>
      { s with
        interpreter := s.interpreter.stop
        host := .running { hosted with stopAt := none } }

/-- The run of a handle that is not used up. -/
def runOf (s : Session) (handle : Nat) : Option Nat :=
  (s.handles[handle]?).join

/-- Begins an operation of the host, and with it a new turn. -/
def act (s : Session) (op : HostOp) : Session :=
  let s := { s with allowance := turnAllowance }
  match op with
  | .start commands =>
    let (id, interpreter) := s.interpreter.start commands
    answer
      { s with interpreter, queue := s.queue ++ [id], handles := s.handles ++ [some id] }
      (.handle s.handles.length)
  | .sleep ms => look { s with host := .sleeping (s.now + Clock.sleepTime ms.toNat) }
  | .stop => answer { s with interpreter := s.interpreter.stop } .done
  | .cancel handle =>
    match s.runOf handle with
    | some id => answer { s with interpreter := s.interpreter.cancel id } .done
    | none => s.answer .noHandle
  | .isRunning handle =>
    match s.runOf handle with
    | some id => s.answer (.running (s.replyOf id).isNone)
    | none => s.answer .noHandle
  | .wait handle =>
    match s.runOf handle with
    | some id => look { s with host := .waiting handle id }
    | none => s.answer .noHandle
  | .run commands cancelled cancelAfter stopAfter =>
    let (id, interpreter) := s.interpreter.enroll commands cancelled
    let time (after : Option Millis) := after.map fun ms => s.now + Clock.sleepTime ms.toNat
    look { s with interpreter, host := .running ⟨id, time cancelAfter, time stopAfter, 0, []⟩ }
  | .clear =>
    let r := s.interpreter.device
    let device := { r with recorder := r.recorder.clear }
    answer { s with interpreter := { s.interpreter with device }, shown := 0 } .done
  | .settings => s.answer (.settings s.interpreter.settings)

/-- The moments at which someone could go on. -/
def moments (s : Session) : List Nat :=
  s.sleepers.map Prod.snd ++ s.host.moments

/-- Lets time jump to `now` and wakes everyone who waited for it. -/
def jumpTo (s : Session) (now : Nat) : Session :=
  let due := (s.sleepers.filter fun sleeper => sleeper.2 ≤ now).map Prod.fst
  let hostReady := s.hostReady || s.host.moments.any fun time => time ≤ now
  due.foldl wake { s with now, hostReady }

/-- Ends a round and begins the next one. -/
def newRound (s : Session) : Session :=
  let hostReady := s.hostReady || s.hostYielded
  let rested := { s with hostReady, hostYielded := false, yielded := [], served := 0 }
  let s := s.yielded.foldl wake rested
  if s.hostReady then look { s with hostReady := false, allowance := turnAllowance } else s

/-- Whether someone can go on without time passing. -/
def isBusy (s : Session) : Bool :=
  s.hostReady || s.hostYielded || !s.yielded.isEmpty || !s.queue.isEmpty

/-- Goes on with the round: the next turn of a started run, or the next round. -/
def serve (s : Session) : Session :=
  match s.queue with
  | id :: queue =>
    if s.served < roundLength then
      resume { s with queue, served := s.served + 1, allowance := turnAllowance } id
    else s.newRound
  | [] =>
    if s.isBusy then s.newRound
    else
      match s.moments.min? with
      | some now => (s.jumpTo now).newRound
      | none => s

/-- Whether the host has something to do within its turn. -/
def hostIsActive (s : Session) : Bool :=
  match s.host with
  | .acting => !s.ops.isEmpty
  | .running hosted => !hosted.todo.isEmpty || (s.replyOfHosted hosted).isSome
  | .sleeping _ | .waiting _ _ => false

def isDone (s : Session) : Bool :=
  match s.host with
  | .acting => s.ops.isEmpty
  | _ => false

/-- Whether the session is over: all operations are answered, or it has broken down, or nobody can
ever go on. -/
def isOver (s : Session) : Bool :=
  s.crashed.isSome ||
    (s.turn.isNone && (s.isDone || (!s.hostIsActive && !s.isBusy && s.moments.isEmpty)))

/-- Moves a session on: the run whose turn it is, or the host within its turn, or the round. -/
def step (s : Session) : Session :=
  if s.isOver then s
  else
    match s.turn, s.host, s.ops with
    | some id, _, _ => s.advance id
    | none, .acting, op :: ops => act { s with ops } op
    | none, .running hosted, _ =>
      match hosted.todo, s.replyOfHosted hosted with
      | charge :: todo, _ =>
        let hosted := { hosted with todo }
        attend { s with host := .running hosted } hosted charge
      | [], some reply => s.answer reply
      | [], none => s.serve
    | none, _, _ => s.serve

def steps : Nat → Session → Session
  | 0, s => s
  | n + 1, s => steps n s.step

end Session

end TouchScript
