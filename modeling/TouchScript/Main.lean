import Std.Time.DateTime.Timestamp
import TouchScript.CommandLine
import TouchScript.CommandLine.Arguments

namespace TouchScript.Program

/-- Why the operating system gave no file. -/
def faultOf : IO.Error → FileFault
  | .noFileOrDirectory _ _ _ => .missing
  | .permissionDenied _ code reason | .inappropriateType _ code reason
  | .invalidArgument _ code reason | .resourceExhausted _ code reason => .refused reason code.toNat
  | e => .refused e.toString 0

def textOf (bytes : ByteArray) : FileText :=
  match String.fromUTF8? bytes with
  | some s => .ok s
  | none => .error .notText

def readText (path : String) : IO FileText := do
  try
    return textOf (← IO.FS.readBinFile path)
  catch e => return .error (faultOf e)

/-- Reads a stream to its end. -/
partial def readStream (stream : IO.FS.Stream) (bytes : ByteArray) : IO ByteArray := do
  let more ← stream.read 65536
  if more.isEmpty then return bytes else readStream stream (bytes ++ more)

/-- Reads the script from its file, or from standard input. -/
def readScript : Option String → IO FileText
  | some path => readText path
  | none => do return textOf (← readStream (← IO.getStdin) ByteArray.empty)

/-- Reads the settings in the home directory. -/
def readHomeConfig : IO FileText := do
  match ← IO.getEnv "HOME" with
  | some home => readText (home ++ "/.tapscript/config.json")
  | none => return .error .missing

/-- Reads a file that may not be named. -/
def readNamed : Option String → IO (Option (String × FileText))
  | some path => do return some (path, ← readText path)
  | none => return none

def openToAppend (path : String) : IO (Except FileFault IO.FS.Handle) := do
  try
    return .ok (← IO.FS.Handle.mk path .append)
  catch e => return .error (faultOf e)

/-- A stamp for a record of this moment. -/
def newStamp : IO Stamp := do
  let bytes ← IO.getRandomBytes 16
  let now ← Std.Time.Timestamp.now
  let nanoseconds := now.toNanosecondsSinceUnixEpoch.val.toNat
  return ⟨.ofRandom bytes.toList, .ofEpoch nanoseconds⟩

/-- Waits for some milliseconds. -/
partial def wait (ms : Nat) : IO Unit := do
  let longest := 4294967295
  if ms ≤ longest then IO.sleep ms.toUInt32
  else
    IO.sleep longest.toUInt32
    wait (ms - longest)

def append (file : Option IO.FS.Handle) (entries : List Entry) : IO Unit := do
  if let some handle := file then
    for entry in entries do
      handle.putStrLn (Record.line ⟨← newStamp, entry⟩)
    handle.flush

/-- Lets a run go on until it is over. -/
partial def play (settings : Settings) (file : Option IO.FS.Handle) (run : Run Rehearsal) :
    IO (Run Rehearsal) := do
  if run.isOver then return run
  let noted := run.device.recorder.entries.size
  let elapsed := run.elapsed
  let run := run.step settings Rehearsal.device
  let entries := run.device.recorder.entries
  if noted < entries.size then append file (entries.extract noted entries.size).toList
  if elapsed < run.elapsed then wait (run.elapsed - elapsed)
  play settings file run

/-- Rehearses a script. Pauses are waited for, and calls are written to the record file when they
are made. -/
def rehearse (inputs : Inputs) (options : RunInputs) (record : Option String) : IO Printed := do
  match options.prepare inputs with
  | .error printed => return printed
  | .ok ready =>
    match ← record.mapM openToAppend with
    | some (.error fault) => return ready.printed.failed (.io fault)
    | some (.ok handle) => return ready.conclude (← play ready.settings (some handle) ready.start)
    | none => return ready.conclude (← play ready.settings none ready.start)

def log (path : Option String) (printed : Printed) : IO Unit := do
  if let some path := path then
    let handle ← IO.FS.Handle.mk path .append
    for event in printed.warnings do
      let details := event.details.map fun (name, value) => s!" {name}={value}"
      handle.putStrLn s!"{event.level.name} {event.message}{String.join details}"

/-- Carries out the wanted command. -/
def serve (a : Arguments) (task : Task) : IO UInt32 := do
  let configPath := (a.path? .config).or (← IO.getEnv "TAPSCRIPT_CONFIG")
  let inputs : Inputs := {
    config := ← readNamed configPath
    homeConfig := ← readHomeConfig
    script := ← readScript a.script }
  let printed ←
    match task with
    | .check => pure inputs.check
    | .run =>
      let record := a.path? .record
      let images ← readNamed (a.path? .images)
      rehearse inputs ⟨images, record.isSome, a.noSettle⟩ record
  printed.output.forM fun line => IO.println line
  printed.errors.forM fun line => IO.eprintln line
  log (a.path? .logFile) printed
  return printed.exitCode.toUInt32

end TouchScript.Program

def main (args : List String) : IO UInt32 := do
  match TouchScript.Arguments.read? args with
  | some a =>
    match a.task with
    | some task => TouchScript.Program.serve a task
    | none => return 2
  | none =>
    IO.eprintln TouchScript.usage
    return 2
