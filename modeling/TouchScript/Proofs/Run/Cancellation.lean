import TouchScript.Proofs.Run.Unwind
import TouchScript.Run.Rehearsal

namespace TouchScript

namespace Run

variable {σ : Type} (settings : Settings) (d : Device σ) (commands : List Command) (device : σ)

/-- The run of a script after some turns, with its calls listed and cancelled, if at all, at the
start of one of them. -/
def recorded (cancelAt : Option Nat) (k : Nat) : Run (σ × List DeviceCall) :=
  (start settings commands (device, []) false).steps settings (d.logged cancelAt) k

theorem recorded_succ (cancelAt : Option Nat) (k : Nat) :
    recorded settings d commands device cancelAt (k + 1) =
      (recorded settings d commands device cancelAt k).step settings (d.logged cancelAt) :=
  steps_succ _ _ _ _

/-- A run is followed from any moment on. -/
theorem recorded_add (cancelAt : Option Nat) (j k : Nat) :
    recorded settings d commands device cancelAt (j + k) =
      (recorded settings d commands device cancelAt j).steps settings (d.logged cancelAt) k :=
  steps_add _ _ _ _ _

/-- The calls made up to some turn are the first ones of those made later. -/
theorem calls_recorded (cancelAt : Option Nat) {j k : Nat} (hle : j ≤ k) :
    (recorded settings d commands device cancelAt j).calls =
      (recorded settings d commands device cancelAt k).calls.take
        (recorded settings d commands device cancelAt j).calls.length := by
  obtain ⟨more, rfl⟩ := Nat.exists_eq_add_of_le hle
  exact List.prefix_iff_eq_take.mp (calls_grow settings d _ cancelAt j more)

/-- Until the call at which it is cancelled has begun, a run is the run that is left alone. -/
theorem recorded_eq {n k : Nat} (hcalls : (recorded settings d commands device none k).calls.length < n) :
    recorded settings d commands device (some n) k = recorded settings d commands device none k := by
  induction k with
  | zero => rfl
  | succ k ih =>
    have hless : (recorded settings d commands device none k).calls.length < n :=
      Nat.lt_of_le_of_lt (calls_grow settings d _ none k 1).length_le hcalls
    rw [recorded_succ, recorded_succ, ih hless]
    refine step_logged settings d fun hrunning hcall hn => ?_
    obtain ⟨call, hsome⟩ := Option.ne_none_iff_exists'.mp hcall
    rw [recorded_succ, calls_step_of_call settings d hrunning hsome, List.length_append] at hcalls
    exact absurd hn (Nat.ne_of_lt hcalls)

/-- The turn at which a run that makes `n` calls makes the last of them. -/
theorem exists_call {n k : Nat} (hn : 1 ≤ n)
    (hcalls : n ≤ (recorded settings d commands device none k).calls.length) :
    ∃ j call, j < k ∧ (recorded settings d commands device none j).status = .running ∧
      (recorded settings d commands device none j).machine.control.call? = some call ∧
      (recorded settings d commands device none j).calls.length + 1 = n := by
  induction k with
  | zero => exact absurd hcalls (Nat.not_le.mpr hn)
  | succ k ih =>
    by_cases hbefore : n ≤ (recorded settings d commands device none k).calls.length
    · obtain ⟨j, call, hlt, hmade⟩ := ih hbefore
      exact ⟨j, call, Nat.lt_succ_of_lt hlt, hmade⟩
    · rw [recorded_succ] at hcalls
      rcases calls_step settings d (recorded settings d commands device none k) none with
        hsame | ⟨call, hrunning, hcall, hadd⟩
      · rw [hsame] at hcalls
        exact absurd hcalls hbefore
      · rw [hadd, List.length_append] at hcalls
        refine ⟨k, call, Nat.lt_succ_self k, hrunning, hcall, ?_⟩
        simp only [List.length_singleton] at hcalls
        omega

/-- A run that is from now on cancelled. -/
def cancel (run : Run σ) : Run σ :=
  { run with cancelled := true }

/-- A pause goes to its end, cancelled or not. -/
theorem step_of_pause (run : Run σ) {duration : Millis} (hrunning : run.status = .running)
    (hpause : run.machine.control = .pause duration) :
    run.step settings d =
      { run with
        machine := run.machine.next
        elapsed := run.elapsed + Clock.sleepTime duration.toNat } := by
  rw [step_of_running _ _ hrunning]
  simp only [Machine.turn, hpause, Signal.slept, Signal.status, hrunning]

/-- The command that makes a call in `run` has just finished in `run'`, and nothing else has been
dispatched in between. -/
structure Completes (run run' : Run σ) : Prop where
  running : run'.status = .running
  control : run'.machine.control = .leave .next
  frames : run'.machine.frames = run.machine.frames
  steps : run'.machine.steps = run.machine.steps
  stopped : run'.machine.stopped = run.machine.stopped

/-- A call comes back and its command finishes, or the run breaks down in it. The run that is
cancelled at the start of the call does the same. -/
theorem completes_or_crashes {run : Run (σ × List DeviceCall)} {call : DeviceCall}
    (hrunning : run.status = .running) (hcall : run.machine.control.call? = some call) :
    ∃ k, 0 < k ∧ (run.steps settings (d.logged none) k).calls = run.calls ++ [call] ∧
      run.steps settings (d.logged (some (run.calls.length + 1))) k =
        (run.steps settings (d.logged none) k).cancel ∧
      (Completes run (run.steps settings (d.logged none) k) ∨
        ∃ o, (run.steps settings (d.logged none) k).status = .crashed o) := by
  have hcut := step_logged_cancels settings d hrunning hcall rfl
  have hcalls := calls_step_of_call settings d hrunning hcall none
  have hstep := step_of_running settings (d.logged none) hrunning
  generalize hmoved : run.step settings (d.logged none) = moved at hcut hcalls hstep
  rcases run.machine.turn_of_call settings hcall (d.logged none) run.device run.cancelled with
    ⟨hstatus, hreturned⟩ | ⟨o, hcrashed⟩
  · replace hstatus : moved.status = .running := by rw [hstep, ← hstatus]
    replace hreturned : Machine.Returned run.machine moved.machine := by
      rw [hstep]
      exact hreturned
    -- A gesture may leave a pause, which goes to its end in both runs.
    rcases hreturned.control with hleave | ⟨duration, hpause⟩
    · refine ⟨1, Nat.zero_lt_one, ?_⟩
      simp only [steps, hmoved, hcut]
      exact ⟨hcalls, rfl, .inl ⟨hstatus, hleave, hreturned.frames, hreturned.steps, hreturned.stopped⟩⟩
    · refine ⟨2, Nat.zero_lt_two, ?_⟩
      simp only [steps, hmoved, hcut]
      rw [step_of_pause settings _ moved hstatus hpause]
      refine ⟨hcalls, step_of_pause settings _ moved.cancel hstatus hpause, .inl ?_⟩
      exact ⟨hstatus, rfl, hreturned.frames, hreturned.steps, hreturned.stopped⟩
  · refine ⟨1, Nat.zero_lt_one, ?_⟩
    simp only [steps, hmoved, hcut]
    exact ⟨hcalls, rfl, .inr ⟨o, by rw [hstep, ← hcrashed]⟩⟩

/-- A run that makes at least `n` calls comes to the end of the command that makes the last of them.
The run that is cancelled at the start of this call comes there as well. -/
theorem exists_completed {n k : Nat} (hn : 1 ≤ n)
    (hcalls : n ≤ (recorded settings d commands device none k).calls.length) :
    ∃ j call i, (recorded settings d commands device none j).machine.control.call? = some call ∧
      (recorded settings d commands device none j).calls.length + 1 = n ∧ j < i ∧
      (recorded settings d commands device none i).calls =
        (recorded settings d commands device none k).calls.take n ∧
      recorded settings d commands device (some n) i =
        (recorded settings d commands device none i).cancel ∧
      (Completes (recorded settings d commands device none j) (recorded settings d commands device none i) ∨
        ∃ o, (recorded settings d commands device none i).status = .crashed o) := by
  obtain ⟨j, call, hlt, hrunning, hcall, hcount⟩ := exists_call settings d commands device hn hcalls
  obtain ⟨more, hmore, hmade, hcut, hend⟩ := completes_or_crashes settings d hrunning hcall
  have hnext := calls_step_of_call settings d hrunning hcall none
  rw [← recorded_succ] at hnext
  refine ⟨j, call, j + more, hcall, hcount, by omega, ?_, ?_, ?_⟩
  · have hlength : (recorded settings d commands device none (j + 1)).calls.length = n := by
      rw [hnext, List.length_append, ← hcount]
      rfl
    rw [recorded_add, hmade, ← hnext, calls_recorded settings d commands device none hlt, hlength]
  · rw [recorded_add, recorded_eq settings d commands device (by omega), recorded_add, ← hcut, hcount]
  · rw [recorded_add]
    exact hend

/-- What is left of a run that is cancelled during a call, once the command of the call has finished:
its end, its calls and its report. -/
theorem exists_cancelled {n j i : Nat} {call : DeviceCall}
    (hcall : (recorded settings d commands device none j).machine.control.call? = some call)
    (hcompletes : Completes (recorded settings d commands device none j)
      (recorded settings d commands device none i))
    (hcut : recorded settings d commands device (some n) i =
      (recorded settings d commands device none i).cancel) :
    ∃ last, (recorded settings d commands device (some n) last).status = .finished ∧
      (recorded settings d commands device (some n) last).calls =
        (recorded settings d commands device none i).calls ∧
      (recorded settings d commands device (some n) last).report =
        ⟨.cancelled, (recorded settings d commands device none j).machine.steps,
          (recorded settings d commands device none i).machine.errors.toList,
          (recorded settings d commands device none i).machine.context.values⟩ := by
  obtain ⟨hrunning, hcontrol, _, hsteps, hstopped⟩ := hcompletes
  have hpoised := (course settings (d.logged none) commands (device, []) false).poised i
  have hgoing : (recorded settings d commands device none j).machine.stopped = false := by
    refine Bool.eq_false_iff.mpr fun h => ?_
    have hnone := (course settings (d.logged none) commands (device, []) false).noCall_of_stopped j h
    cases hnone.symm.trans hcall
  have hnone : (recorded settings d commands device none i).machine.control.call? = none := by
    rw [hcontrol]
    rfl
  obtain ⟨k, hfinished, hdevice, hreport⟩ := exists_finished settings (d.logged (some n))
    (recorded settings d commands device none i).cancel hrunning hpoised hnone rfl
  refine ⟨i + k, ?_⟩
  rw [recorded_add, hcut]
  refine ⟨hfinished, congrArg Prod.snd hdevice, hreport.trans ?_⟩
  simp [report, cancel, Machine.report, Machine.outcome, hstopped, hgoing, hsteps]

/-- The run `cut` is what is left of the run `free` when it is cancelled at the start of call number
`n`. If `free` makes the call, `cut` makes the same `n` calls, completes the command that makes the
last of them and is over, with the steps, errors and values of that moment; only a device that breaks
down in the call breaks down in both. If `free` is over before, the two are the same. -/
structure IsTruncation (n : Nat) (free cut : Nat → Run (σ × List DeviceCall)) : Prop where
  called : ∀ k, n ≤ (free k).calls.length → ∃ j call i last,
    (free j).machine.control.call? = some call ∧ (free j).calls.length + 1 = n ∧ j < i ∧
    (cut last).calls = (free k).calls.take n ∧
    (Completes (free j) (free i) ∧ (cut last).status = .finished ∧
        (cut last).report = ⟨.cancelled, (free j).machine.steps, (free i).machine.errors.toList,
          (free i).machine.context.values⟩ ∧
        (∀ l, i ≤ l → (free i).machine.errors.toList <+: (free l).machine.errors.toList) ∨
      ∃ o, (free i).status = .crashed o ∧ (cut last).status = .crashed o)
  uncalled : ∀ k, (free k).status ≠ .running → (free k).calls.length < n → cut k = free k

/-- A run that is cancelled at the start of a call is a truncation of the run that is left alone, and
a run that is cancelled from the start does nothing. -/
theorem cancellation_truncates {n : Nat} (hn : 1 ≤ n) :
    IsTruncation n (recorded settings d commands device none)
        (recorded settings d commands device (some n)) ∧
      ∀ cancelAt, ∃ last run,
        (start settings commands (device, []) true).steps settings (d.logged cancelAt) last = run ∧
        run.status = .finished ∧ run.calls = [] ∧ run.report = ⟨.cancelled, 0, [], []⟩ := by
  refine ⟨⟨fun k hcalls => ?_, fun k _ hless => ?_⟩, fun cancelAt => ?_⟩
  · obtain ⟨j, call, i, hcall, hcount, hlt, hmade, hcut, hcompletes | ⟨o, hcrashed⟩⟩ :=
      exists_completed settings d commands device hn hcalls
    · obtain ⟨last, hfinished, hlast, hreport⟩ :=
        exists_cancelled settings d commands device hcall hcompletes hcut
      refine ⟨j, call, i, last, hcall, hcount, hlt, hlast.trans hmade,
        .inl ⟨hcompletes, hfinished, hreport, fun l hle => ?_⟩⟩
      obtain ⟨later, rfl⟩ := Nat.exists_eq_add_of_le hle
      exact (course settings (d.logged none) commands (device, []) false).errors_grow i later
    · refine ⟨j, call, i, i, hcall, hcount, hlt, ?_, .inr ⟨o, hcrashed, ?_⟩⟩
      · exact (congrArg calls hcut).trans hmade
      · exact (congrArg status hcut).trans hcrashed
  · exact recorded_eq settings d commands device hless
  · obtain ⟨last, hfinished, hdevice, hreport⟩ := exists_finished settings (d.logged cancelAt)
      (start settings commands (device, []) true) rfl trivial rfl rfl
    exact ⟨last, _, rfl, hfinished, congrArg Prod.snd hdevice, hreport⟩

/-- A script that logs two variables. -/
def twoLogs : List Command :=
  [.leaf 1 (.logVariable "x"), .leaf 2 (.logVariable "y")]

/-- Left alone the script makes two calls, and cancelled in the first it makes no other. -/
theorem twoLogs_cancelled :
    (recorded Settings.default Rehearsal.device twoLogs (.plain (.new [] [] false)) none 6).calls =
        [.tell (.namedValue "x" "0"), .tell (.namedValue "y" "0")] ∧
      ∃ last, (recorded Settings.default Rehearsal.device twoLogs (.plain (.new [] [] false))
        (some 1) last).calls = [.tell (.namedValue "x" "0")] := by
  obtain ⟨hcut, _⟩ := cancellation_truncates Settings.default Rehearsal.device twoLogs
    (.plain (.new [] [] false)) (Nat.le_refl 1)
  obtain ⟨_, _, _, last, _, _, _, hcalls, _⟩ := hcut.called 6 (by decide)
  exact ⟨rfl, last, hcalls⟩

end Run

end TouchScript
