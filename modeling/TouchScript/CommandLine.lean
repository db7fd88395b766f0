import TouchScript.Run
import TouchScript.Run.Rehearsal
import TouchScript.Script
import TouchScript.Script.Warning

namespace TouchScript

/-- Why a file has no text. -/
inductive FileFault where
  | missing
  | notText
  /-- Any other reason, in the words of the operating system and with its number. -/
  | refused (reason : String) (code : Nat)
deriving DecidableEq

def FileFault.message : FileFault → String
  | .missing => "No such file or directory (os error 2)"
  | .notText => "stream did not contain valid UTF-8"
  | .refused reason code => s!"{reason} (os error {code})"

abbrev FileText := Except FileFault String

/-- Why a command gave up. -/
inductive Failure where
  | parse (errors : Nat)
  | config (message : String)
  | io (fault : FileFault)
deriving DecidableEq

namespace Failure

def exitCode : Failure → Nat
  | .parse _ => 2
  | .config _ => 3
  | .io _ => 4

def message : Failure → String
  | .parse errors => s!"Script has {errors} parse error(s)"
  | .config message => s!"Config error: {message}"
  | .io fault => s!"IO error: {fault.message}"

end Failure

/-- A settings file could not be used. -/
inductive SettingsFault where
  | io (fault : FileFault)
  | invalid
deriving DecidableEq

def SettingsFault.message : SettingsFault → String
  | .io fault => s!"IO error: {fault.message}"
  | .invalid => "invalid config: not a settings file"

/-- Reads a settings file. -/
def Settings.load (file : FileText) : Except SettingsFault Settings :=
  match file with
  | .error fault => .error (.io fault)
  | .ok text =>
    match Settings.read? text with
    | some settings => .ok settings
    | none => .error .invalid

/-- What both commands are given: a settings file with its path if one was named, the settings in
the home directory, and the script. -/
structure Inputs where
  config : Option (String × FileText)
  homeConfig : FileText
  script : FileText

/-- What only `run` is given. -/
structure RunInputs where
  images : Option (String × FileText)
  record : Bool
  noSettle : Bool

/-- What a command prints on its two channels, its exit code, and the events it reports. -/
structure Printed where
  output : List String
  errors : List String
  exitCode : Nat
  events : List Event

namespace Printed

/-- The events that a log of warnings shows. -/
def warnings (p : Printed) : List Event :=
  p.events.filter fun event => event.level == .warn

/-- Adds a failure to what was printed before. -/
def failed (p : Printed) (failure : Failure) : Printed :=
  { p with
    errors := p.errors ++ ["Error: " ++ failure.message]
    exitCode := failure.exitCode }

def nothing : Printed := ⟨[], [], 0, []⟩

end Printed

namespace Inputs

/-- The settings to use. A named file must be usable; the one in the home directory need not be. -/
def settings (inputs : Inputs) : Except Failure Settings :=
  match inputs.config with
  | some (path, file) =>
    match Settings.load file with
    | .ok settings => .ok settings
    | .error fault => .error (.config s!"{path}: {fault.message}")
  | none => .ok (Settings.readOrDefault inputs.homeConfig.toOption)

/-- The settings and the source, in the order in which they are looked for. -/
def load (inputs : Inputs) : Except Failure (Settings × String) :=
  match inputs.settings with
  | .error failure => .error failure
  | .ok settings =>
    match inputs.script with
    | .error fault => .error (.io fault)
    | .ok source => .ok (settings, source)

/-- Reads a script and lists its faults and warnings, from the contents of the files involved. -/
def check (inputs : Inputs) : Printed :=
  match inputs.load with
  | .error failure => Printed.nothing.failed failure
  | .ok (settings, source) =>
    let script := Script.parse settings.strictTerminators source
    let warned := warnings script.commands
    let output :=
      (script.errors.map fun e => s!"error: {e.message}") ++
        (warned.map fun w => s!"warning: {w.text}") ++
        [s!"{script.errors.length} parse error(s), {warned.length} warning(s)"]
    let printed : Printed := ⟨output, [], 0, script.errors.map Event.ofParseError⟩
    if script.isClean then printed else printed.failed (.parse script.errors.length)

end Inputs

/-- A rehearsal that is ready to go: what was printed so far, the settings, the script and the
device. -/
structure Rehearsing where
  printed : Printed
  settings : Settings
  script : Script
  device : Rehearsal

namespace RunInputs

def table (inputs : RunInputs) : Except Failure ImageTable :=
  match inputs.images with
  | none => .ok []
  | some (_, .error fault) => .error (.io fault)
  | some (path, .ok text) =>
    match ImageTable.read? text with
    | some table => .ok table
    | none => .error (.config s!"invalid image map {path}: not an image table")

/-- Prepares a run: settings, source, script and images, each of which may end the command. -/
def prepare (options : RunInputs) (inputs : Inputs) : Except Printed Rehearsing :=
  match inputs.load with
  | .error failure => .error (Printed.nothing.failed failure)
  | .ok (settings, source) =>
    let settings :=
      if options.noSettle then { settings with settleDelay := ⟨0, by decide, by decide⟩ }
      else settings
    let script := Script.parse settings.strictTerminators source
    let printed : Printed :=
      ⟨[], script.errors.map fun e => s!"warning: {e.message}", 0,
        script.errors.map Event.ofParseError⟩
    match options.table with
    | .error failure => .error (printed.failed failure)
    | .ok table =>
      .ok ⟨printed, settings, script, Rehearsal.plain (Recorder.new table [] options.record)⟩

end RunInputs

namespace Rehearsing

def start (r : Rehearsing) : Run Rehearsal :=
  Run.start r.settings r.script.commands r.device false

/-- What is printed when the run is over: every call, every error and a summary. -/
def conclude (r : Rehearsing) (run : Run Rehearsal) : Printed :=
  let report := run.report
  let calls := run.device.recorder.entries.toList
  let counts :=
    s!"{report.steps} steps, {calls.length} actions, {report.errors.length} errors"
  let summary := s!"{report.outcome.name}: {counts}"
  { output := r.printed.output ++ calls.map Entry.text ++ [summary]
    errors := r.printed.errors ++ report.errors.map fun e => s!"error: {e.message}"
    exitCode := 0
    events := r.printed.events ++ run.machine.allEvents run.cancelled }

end Rehearsing

end TouchScript
