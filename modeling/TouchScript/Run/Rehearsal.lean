import TouchScript.Run.Device

namespace TouchScript

/-- What a recorded call does next. -/
inductive Behaviour where
  | ok
  | fails (e : DeviceError)
  | slow (ms : Millis)
deriving DecidableEq

/-- A device that records every call and is told in advance how it behaves. -/
structure Rehearsal where
  recorder : Recorder
  /-- The behaviour of the next calls; further calls succeed. -/
  behaviours : List Behaviour
  /-- Whether a tap of three fingers is composed of a tap at three points. -/
  composesThreeFingers : Bool
  /-- Whether log lines go to the events and not to the recorder. -/
  logsToEvents : Bool
  /-- Whether image searches find nothing without asking the recorder. -/
  searchesNothing : Bool
  /-- The number of calls received. -/
  calls : Nat
  /-- The call at whose start the run is cancelled, counted from one. -/
  cancelAt : Option Nat

namespace Rehearsal

def plain (recorder : Recorder) : Rehearsal :=
  ⟨recorder, [], false, false, false, 0, none⟩

/-- Counts a call, and tells whether it cancels the run. -/
def receive (r : Rehearsal) : Bool × Rehearsal :=
  let calls := r.calls + 1
  (r.cancelAt == some calls, { r with calls })

/-- Takes the prescribed behaviour of a call that the recorder has accepted. -/
def behave {α : Type} (r : Rehearsal) (cancels : Bool) (result : α) : Answer α × Rehearsal :=
  match r.behaviours with
  | [] => (⟨.ok result, none, cancels⟩, r)
  | behaviour :: rest =>
    let r := { r with behaviours := rest }
    match behaviour with
    | .ok => (⟨.ok result, none, cancels⟩, r)
    | .fails e => (⟨.error e, none, cancels⟩, r)
    | .slow ms => (⟨.ok result, some ms.toNat, cancels⟩, r)

/-- Answers a call with what the recorder says; a call it refuses takes no behaviour. -/
def answer {α : Type} (r : Rehearsal) (cancels : Bool) (recorded : Except DeviceError α) :
    Answer α × Rehearsal :=
  match recorded with
  | .error e => (⟨.error e, none, cancels⟩, r)
  | .ok result => r.behave cancels result

def recordGesture (r : Rehearsal) (g : Gesture Millis) : Answer Unit × Rehearsal :=
  let (cancels, r) := r.receive
  let (recorded, recorder) := r.recorder.perform (g.map Duration.ofMillis)
  answer { r with recorder } cancels recorded

def perform (r : Rehearsal) (g : Gesture Millis) : Answer Unit × Rehearsal :=
  match g with
  | .threeFingerTap p =>
    if r.composesThreeFingers then
      match p.threeFingers with
      | .ok points => r.recordGesture (.multiTap points)
      | .error o => (⟨.crash o, none, false⟩, r)
    else r.recordGesture g
  | g => r.recordGesture g

def search (r : Rehearsal) (path : String) : Answer ImageMatch × Rehearsal :=
  if r.searchesNothing then (⟨.ok ImageMatch.notFound, none, false⟩, r)
  else
    let (cancels, r) := r.receive
    let (recorded, recorder) := r.recorder.find path
    answer { r with recorder } cancels recorded

def logEvent : LogCall Millis → Event
  | .message text => .said text
  | .namedValue name value => .saidVariable name value
  | .overlay text duration => .saidOverlay text duration

def tell (r : Rehearsal) (call : LogCall Millis) : List Event × Bool × Rehearsal :=
  if r.logsToEvents then ([logEvent call], false, r)
  else
    let (cancels, r) := r.receive
    ([], cancels, { r with recorder := r.recorder.tell (call.map Duration.ofMillis) })

def device : Device Rehearsal where
  perform := perform
  search := search
  tell := tell

end Rehearsal

end TouchScript
