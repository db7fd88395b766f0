import TouchScript.CommandLine
import TouchScript.Proofs.Machine.OneLine
import TouchScript.Proofs.Recorder.Log
import TouchScript.Proofs.Run.Cancellation
import TouchScript.Proofs.Script.Concatenation

namespace TouchScript

open Text

/-- A log call is recorded with its texts. -/
theorem texts_action (call : LogCall Millis) : (call.map Duration.ofMillis).action.texts = call.texts := by
  cases call <;> rfl

/-- A rehearsal in which no call fails or breaks down and no recorded text is broken. -/
structure Rehearsal.Smooth (r : Rehearsal) : Prop where
  failures : r.recorder.failures = []
  behaviours : r.behaviours = []
  simple : r.composesThreeFingers = false
  success : ∀ e ∈ r.recorder.entries, e.result = .success
  texts : ∀ e ∈ r.recorder.entries, ∀ s ∈ e.action.texts, OneLine s

namespace Rehearsal.Smooth

variable {r : Rehearsal} (h : r.Smooth)
include h

/-- A recorder whose table of failures is empty notes every call as successful. -/
theorem record_eq (a : Action) : r.recorder.record a = (.ok (), r.recorder.note ⟨a, .success⟩) :=
  r.recorder.record_of_noFailure (by rw [h.failures]; rfl)

/-- One more successful call, with whatever number the calls have been counted. -/
theorem note {a : Action} (ha : ∀ s ∈ a.texts, OneLine s) (calls : Nat) :
    Smooth { r with calls, recorder := r.recorder.note ⟨a, .success⟩ } where
  failures := h.failures
  behaviours := h.behaviours
  simple := h.simple
  success := by simpa [Recorder.note, or_imp, forall_and] using h.success
  texts := by simpa [Recorder.note, or_imp, forall_and] using ⟨h.texts, ha⟩

/-- A gesture succeeds, and is recorded with nothing but numbers and points. -/
theorem perform (g : Gesture Millis) :
    ∃ cancels after, Rehearsal.perform r g = (⟨.ok (), none, cancels⟩, after) ∧ after.Smooth := by
  have hgesture : Rehearsal.perform r g = r.recordGesture g := by
    cases g <;> simp [Rehearsal.perform, h.simple]
  refine ⟨r.cancelAt == some (r.calls + 1), _, ?_, h.note (a := .gesture g) nofun (r.calls + 1)⟩
  simp only [hgesture, recordGesture, receive, r.recorder.perform_ofMillis, h.record_eq, answer, behave, h.behaviours]

/-- A search succeeds, whether or not the image is found, and the recorded path is on one line. -/
theorem search {path : String} (hpath : OneLine path) :
    ∃ m cancels after, Rehearsal.search r path = (⟨.ok m, none, cancels⟩, after) ∧ after.Smooth := by
  unfold Rehearsal.search
  split
  · exact ⟨_, _, _, rfl, h⟩
  · generalize hm : (r.recorder.images.get? path).getD ImageMatch.notFound = m
    have hnote := h.note (a := .find path m) (List.forall_mem_singleton.mpr hpath) (r.calls + 1)
    refine ⟨m, r.cancelAt == some (r.calls + 1), _, ?_, hnote⟩
    simp only [receive, Recorder.find, hm, h.record_eq, Except.map, answer, behave, h.behaviours]

/-- Lines of log on one line are recorded on one line. -/
theorem tell {call : LogCall Millis} (hcall : ∀ s ∈ call.texts, OneLine s) :
    (Rehearsal.tell r call).2.2.Smooth := by
  unfold Rehearsal.tell
  split
  · exact h
  · have hnote := h.note (a := (call.map Duration.ofMillis).action) (by rwa [texts_action]) (r.calls + 1)
    simpa only [receive, Recorder.tell, h.record_eq] using hnote

/-- After a turn a rehearsal is still smooth, and the turn has not broken down. -/
theorem turn {m : Machine} (hm : m.Unbroken) (settings : Settings) (cancelled : Bool) :
    (m.turn settings Rehearsal.device r cancelled).device.Smooth ∧
      ∀ o, (m.turn settings Rehearsal.device r cancelled).signal.status ≠ .crashed o := by
  have hproceed (o : Overflow) : Signal.proceed.status ≠ .crashed o := by simp [Signal.status]
  unfold Machine.turn
  cases hcontrol : m.control with
  | perform line g =>
    obtain ⟨cancels, after, hperform, hafter⟩ := h.perform g
    simp only [Rehearsal.device, hperform, Machine.afterCall]
    exact ⟨hafter, hproceed⟩
  | search line lookup =>
    have hpath : OneLine lookup.path := hm.control _ (by simp [hcontrol, Control.texts, ImageLookup.texts])
    obtain ⟨m, cancels, after, hsearch, hafter⟩ := h.search hpath
    simp only [Rehearsal.device, hsearch, Machine.afterCall]
    exact ⟨hafter, hproceed⟩
  | tell call =>
    have hcall : ∀ s ∈ call.texts, OneLine s := by simpa only [hcontrol, Control.texts] using hm.control
    exact ⟨h.tell hcall, hproceed⟩
  | leave flow =>
    dsimp only
    split
    · exact ⟨h, by simp [Signal.status]⟩
    · exact ⟨h, hproceed⟩
  | fetch | again => exact ⟨h, hproceed⟩
  | pause duration | yield => exact ⟨h, by simp [Signal.status]⟩

end Rehearsal.Smooth

/-- The text on standard output: every line is ended by a line feed. -/
def Printed.outputText (p : Printed) : List Char :=
  p.output.flatMap fun line => line.toList ++ ['\n']

namespace Rehearsing

/-- The states of a rehearsal that goes on step by step until it is over, and that the user may
interrupt at any moment. -/
inductive Reaches (r : Rehearsing) : Run Rehearsal → Prop where
  | start : Reaches r r.start
  | step {run : Run Rehearsal} (h : Reaches r run) : Reaches r (run.step r.settings Rehearsal.device)
  | interrupt {run : Run Rehearsal} (h : Reaches r run) (hrunning : run.status = .running) :
      Reaches r run.cancel

/-- A rehearsal that nobody interrupts comes to every number of steps. -/
theorem Reaches.steps {r : Rehearsing} (n : Nat) : r.Reaches (r.start.steps r.settings Rehearsal.device n) := by
  induction n with
  | zero => exact .start
  | succ n ih =>
    rw [Run.steps_succ]
    exact ih.step

/-- What holds of a rehearsal at any moment. -/
structure Sound (r : Rehearsing) (run : Run Rehearsal) : Prop where
  machine : run.machine.Unbroken
  within : run.machine.skeleton.Within r.script.commands
  poised : run.machine.skeleton.Poised
  device : run.device.Smooth
  status : ∀ o, run.status ≠ .crashed o

/-- A step keeps what holds of a rehearsal, since it keeps the texts of the machine and those of the
recorder. -/
theorem Sound.step {r : Rehearsing} (hscript : Command.Unbroken r.script.commands) {run : Run Rehearsal}
    (h : r.Sound run) : r.Sound (run.step r.settings Rehearsal.device) := by
  by_cases hrunning : run.status = .running
  · have hmove := Machine.turn_move r.settings run.machine Rehearsal.device run.device run.cancelled h.poised
    obtain ⟨hdevice, hstatus⟩ := h.device.turn h.machine r.settings run.cancelled
    rw [Run.step_of_running _ _ hrunning]
    exact ⟨h.machine.turn hscript h.within _ _ _, h.within.move hmove, h.poised.move hmove, hdevice, hstatus⟩
  · rw [Run.step_of_over _ _ hrunning]
    exact h

/-- Whatever a rehearsal comes to, also when it is interrupted, its texts are unbroken and it has
not broken down. -/
theorem Reaches.sound {r : Rehearsing} (hscript : Command.Unbroken r.script.commands) (hdevice : r.device.Smooth)
    {run : Run Rehearsal} (h : r.Reaches run) : r.Sound run := by
  induction h with
  | start =>
    have hwithin := (Run.course r.settings Rehearsal.device r.script.commands r.device false).within_script 0
    exact ⟨Machine.unbroken_start r.settings hscript, hwithin, trivial, hdevice, nofun⟩
  | step _ ih => exact ih.step hscript
  | interrupt _ _ ih => exact ⟨ih.machine, ih.within, ih.poised, ih.device, ih.status⟩

/-- What the command line prepares: nothing has been printed on standard output, the script has been read
from a source, and the recorder refuses nothing. -/
theorem of_prepare {options : RunInputs} {inputs : Inputs} {r : Rehearsing}
    (hready : options.prepare inputs = .ok r) :
    r.printed.output = [] ∧ Command.Unbroken r.script.commands ∧ r.device.Smooth := by
  unfold RunInputs.prepare at hready
  split at hready
  · cases hready
  · dsimp only at hready
    split at hready
    · cases hready
    next table _ =>
      cases hready
      refine ⟨rfl, Script.unbroken_parse _ _, rfl, rfl, rfl, ?_, ?_⟩
      · simp [Rehearsal.plain, Recorder.new]
      · simp [Rehearsal.plain, Recorder.new]

end Rehearsing

/-- The line that is printed after the calls. -/
def Report.summary (report : Report) (actions : Nat) : String :=
  s!"{report.outcome.name}: {report.steps} steps, {actions} actions, {report.errors.length} errors"

/-- The summary is on one line. -/
theorem Report.oneLine_summary (report : Report) (actions : Nat) : OneLine (report.summary actions) := by
  have hname : OneLine report.outcome.name := by cases report.outcome <;> decide
  simp +decide [summary, hname]

namespace Rehearsing

/-- What a rehearsal that is over prints on standard output: for every recorded call one line with its
text, in order, and then the summary, with no line feed but those at the ends of the lines. -/
structure PrintsLines (r : Rehearsing) (run : Run Rehearsal) : Prop where
  finished : run.status = .finished
  output : (r.conclude run).output =
    (run.device.recorder.entries.toList.map fun e => e.action.text) ++
      [run.report.summary run.device.recorder.entries.size]
  oneLine : ∀ line ∈ (r.conclude run).output, OneLine line
  lines : Chars.lines (r.conclude run).outputText = (r.conclude run).output.map String.toList ++ [[]]
  count : (r.conclude run).outputText.count '\n' = run.device.recorder.entries.size + 1

/-- What is printed at the end is what was printed before, the text of every entry and the summary. -/
theorem output_conclude (r : Rehearsing) (run : Run Rehearsal) :
    (r.conclude run).output = r.printed.output ++ run.device.recorder.entries.toList.map Entry.text ++
      [run.report.summary run.device.recorder.entries.size] := by
  simp only [conclude, Report.summary, Array.length_toList, String.append_assoc]
  rfl

/-- A rehearsal that is over prints one line for every call and one more, provided that nothing was
printed before. -/
theorem Sound.printsLines {r : Rehearsing} (houtput : r.printed.output = []) {run : Run Rehearsal}
    (h : r.Sound run) (hover : run.isOver = true) : r.PrintsLines run := by
  have hfinished : run.status = .finished := by
    cases hstatus : run.status with
    | running => simp [Run.isOver, hstatus] at hover
    | finished => rfl
    | crashed o => exact absurd hstatus (h.status o)
  have htexts : run.device.recorder.entries.toList.map Entry.text =
      run.device.recorder.entries.toList.map fun e => e.action.text := by
    refine List.map_congr_left fun e he => ?_
    rw [Entry.text, h.device.success e (by simpa using he)]
  have hlines := r.output_conclude run
  rw [houtput, List.nil_append, htexts] at hlines
  have honeLine : ∀ line ∈ (r.conclude run).output, OneLine line := by
    rw [hlines]
    refine List.forall_mem_append.mpr ⟨fun line hline => ?_, List.forall_mem_singleton.mpr ?_⟩
    · obtain ⟨e, he, rfl⟩ := List.mem_map.mp hline
      exact Action.oneLine_text (h.device.texts e (by simpa using he))
    · exact run.report.oneLine_summary _
  have hcut : Chars.lines (r.conclude run).outputText = (r.conclude run).output.map String.toList ++ [[]] :=
    Text.lines_flatMap honeLine
  refine ⟨hfinished, hlines, honeLine, hcut, ?_⟩
  have hlength := Line.length_lines (r.conclude run).outputText
  rw [hcut, hlines] at hlength
  simp only [List.length_append, List.length_map, List.length_singleton, Array.length_toList] at hlength
  exact (Nat.succ.inj hlength).symm

end Rehearsing

/-- No value, message, name or path that arises in a run of a script that has been read has a line feed,
whatever the surroundings do. So the command line prints one line for every call: when a rehearsal is over,
interrupted or not, its standard output is the text of each call, in order, and a summary with the numbers
of the report and of the recorder, each on a line of its own. -/
theorem Rehearsing.one_line_per_action :
    (∀ settings strict source (c : Course settings (Script.parse strict source).commands) n,
      (c.state n).Unbroken) ∧
    ∀ (options : RunInputs) (inputs : Inputs) (r : Rehearsing), options.prepare inputs = .ok r →
      ∀ run, r.Reaches run → run.machine.Unbroken ∧
        (∀ e ∈ run.device.recorder.entries, ∀ s ∈ e.action.texts, OneLine s) ∧
        (run.isOver = true → r.PrintsLines run) := by
  constructor
  · intro settings strict source c n
    exact c.unbroken (Script.unbroken_parse strict source) n
  · intro options inputs r hready run hrun
    obtain ⟨houtput, hscript, hdevice⟩ := of_prepare hready
    have hsound := hrun.sound hscript hdevice
    exact ⟨hsound.machine, hsound.device.texts, hsound.printsLines houtput⟩

/-- A script that taps and logs a value. -/
theorem Rehearsing.three_lines_for_two_calls :
    let inputs : Inputs := ⟨none, .error .missing, .ok "set x 5\nclick 1 2\nlog x is $x"⟩
    ∃ r run, RunInputs.prepare ⟨none, false, true⟩ inputs = .ok r ∧ r.Reaches run ∧ run.isOver = true ∧
      (r.conclude run).output =
        ["tap (1, 2)", "log_message x is 5", "Completed: 3 steps, 2 actions, 0 errors"] ∧
      (r.conclude run).outputText.count '\n' = 3 := by
  intro inputs
  cases hready : RunInputs.prepare ⟨none, false, true⟩ inputs with
  | error printed => cases hready
  | ok r =>
    obtain ⟨_, _, hprints⟩ := one_line_per_action.2 _ _ r hready _ (Reaches.steps 20)
    have hover : (r.start.steps r.settings Rehearsal.device 20).isOver = true := by
      cases hready
      decide +kernel
    refine ⟨r, _, rfl, .steps 20, hover, ?_, ?_⟩
    · rw [(hprints hover).output]
      cases hready
      decide +kernel
    · rw [(hprints hover).count]
      cases hready
      decide +kernel

end TouchScript
