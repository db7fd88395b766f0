import TouchScript.Duration
import TouchScript.Record

namespace TouchScript

/-- Why a device did not carry out a call. -/
inductive DeviceError where
  | commandFailed (message : String)
  | unavailable
  | timeout
  | io (message : String)
deriving DecidableEq

def DeviceError.message : DeviceError → String
  | .commandFailed message => s!"Command failed: {message}"
  | .unavailable => "Collaborator unavailable"
  | .timeout => "Operation timed out"
  | .io message => s!"IO error: {message}"

/-- The action of a log call, with its duration in milliseconds. -/
def LogCall.action (call : LogCall Duration) : Action :=
  .ofLogCall (call.map Duration.toMillis)

/-- A device for dry runs: it carries out nothing and notes every call. It has a table of answers
for image searches and a table of calls that fail, the calls since it was last cleared, and all
calls ever made if a record file is attached. -/
structure Recorder where
  images : ImageTable
  failures : Bindings String
  entries : Array Entry
  file : Option (Array Entry)

namespace Recorder

def new (images : ImageTable) (failures : Bindings String) (withFile : Bool) : Recorder :=
  ⟨images, failures, #[], if withFile then some #[] else none⟩

def withImage (r : Recorder) (path : String) (m : ImageMatch) : Recorder :=
  { r with images := r.images.set path m }

/-- The failure that the table has for a call, if any. -/
def failureOf (r : Recorder) (a : Action) : Option DeviceError :=
  (r.failures.get? a.name).map DeviceError.commandFailed

def note (r : Recorder) (e : Entry) : Recorder :=
  { r with entries := r.entries.push e, file := r.file.map fun all => all.push e }

/-- Notes a call, which fails if its name is in the table of failures. -/
def record (r : Recorder) (a : Action) : Except DeviceError Unit × Recorder :=
  match r.failureOf a with
  | some error => (.error error, r.note ⟨a, .failure error.message⟩)
  | none => (.ok (), r.note ⟨a, .success⟩)

/-- Notes an image search and answers it from the table. -/
def find (r : Recorder) (path : String) : Except DeviceError ImageMatch × Recorder :=
  let m := (r.images.get? path).getD ImageMatch.notFound
  let (result, r) := r.record (.find path m)
  (result.map fun _ => m, r)

/-- Notes a gesture. Its duration is noted in milliseconds. -/
def perform (r : Recorder) (g : Gesture Duration) : Except DeviceError Unit × Recorder :=
  r.record (.gesture (g.map Duration.toMillis))

/-- Notes a line of log, and keeps to itself what became of it. -/
def tell (r : Recorder) (call : LogCall Duration) : Recorder :=
  (r.record call.action).2

def clear (r : Recorder) : Recorder :=
  { r with entries := #[] }

def gestures (r : Recorder) : List Action :=
  (r.entries.toList.map Entry.action).filter Action.isGesture

def fileEntries (r : Recorder) : List Entry :=
  (r.file.getD #[]).toList

/-- The lines of the record file, where the `n`-th call carries the `n`-th stamp. -/
def fileLines (r : Recorder) (stamps : Nat → Stamp) : List String :=
  r.fileEntries.zipIdx.map fun (entry, n) => Record.line ⟨stamps n, entry⟩

end Recorder

end TouchScript
