import TouchScript.Proofs.Labels.Containment
import TouchScript.Proofs.Run.Unwind
import TouchScript.Run.Rehearsal

namespace TouchScript

namespace Frame

/-- The outermost of some frames, if there are any, is the sequence of the script. -/
def Grounded (script : List Command) (frames : List Frame) : Prop :=
  ∀ frame, frames.getLast? = some frame → ∃ index, frame = .sequence 0 script index

namespace Grounded

variable {script : List Command} {frame other : Frame} {outer : List Frame}

/-- More frames inside do not change the outermost one. -/
theorem cons (h : Grounded script (other :: outer)) : Grounded script (frame :: other :: outer) := by
  intro last hlast
  rw [List.getLast?_cons_cons] at hlast
  exact h last hlast

/-- The innermost frame may be left while there are others. -/
theorem tail (h : Grounded script (frame :: outer)) : Grounded script outer := by
  cases outer with
  | nil => nofun
  | cons next rest =>
    intro last hlast
    rw [← List.getLast?_cons_cons] at hlast
    exact h last hlast

/-- The innermost frame may change as long as the sequence of the script stays one. -/
theorem replace (h : Grounded script (frame :: outer))
    (hsame : ∀ index, frame = .sequence 0 script index → ∃ place, other = .sequence 0 script place) :
    Grounded script (other :: outer) := by
  cases outer with
  | nil =>
    intro last hlast
    cases hlast
    obtain ⟨index, hframe⟩ := h frame rfl
    exact hsame index hframe
  | cons next rest => exact h.tail.cons

/-- A move never exchanges the outermost frame, but by another place in it. -/
theorem move {settings : Settings} {s s' : Skeleton} (h : Grounded script s.frames)
    (hmove : s.Move settings s') : Grounded script s'.frames := by
  cases hmove with
  | finish _ hframes _ | exit _ hframes _ _ | unwind _ hframes _ _ | interrupt _ hframes _ _
  | leaveCall _ hframes =>
    rw [hframes] at h
    exact h.tail
  | call _ hcommand _ _ =>
    obtain ⟨scope, commands, index, outer, hframes, _⟩ := Skeleton.frames_of_current hcommand
    simp only [Skeleton.enter, hframes] at h ⊢
    exact h.cons.cons
  | branch _ hcommand _ =>
    obtain ⟨scope, commands, index, outer, hframes, _⟩ := Skeleton.frames_of_current hcommand
    simp only [Skeleton.enter, hframes] at h ⊢
    exact h.cons
  | loop _ hcommand | counted _ hcommand =>
    obtain ⟨scope, commands, index, outer, hframes, _⟩ := Skeleton.frames_of_current hcommand
    simp only [hframes] at h ⊢
    exact h.cons
  | pass _ hframes =>
    simp only [Skeleton.enter, hframes] at h ⊢
    exact h.cons
  | @count count passes counter body outer _ hframes _ =>
    rw [hframes] at h
    have hcounted : Grounded script (.counted count (passes + 1) counter body :: outer) :=
      h.replace (by rintro index ⟨⟩)
    exact hcounted.cons
  | advance _ hframes =>
    rw [hframes] at h
    refine h.replace ?_
    rintro index ⟨⟩
    exact ⟨_, rfl⟩
  | land _ hframes =>
    rw [hframes] at h
    refine h.replace fun index hframe => ?_
    obtain ⟨hscope, rfl, _⟩ := Frame.sequence.inj hframe
    exact ⟨_, by rw [hscope]⟩
  | _ => exact h

end Grounded

end Frame

namespace Skeleton

variable {settings : Settings} {s s' : Skeleton}

/-- Once all frames have been left nothing moves any more. -/
theorem Move.of_nil (hmove : s.Move settings s') (hpoised : s.Poised) (hframes : s.frames = []) :
    s' = s := by
  have hcurrent : s.current? = none := by simp [current?, hframes]
  cases hmove with
  | idle _ => rfl
  | resume hwaiting _ =>
    obtain ⟨_, _, _, _, hsequence⟩ := hpoised.frames_eq hwaiting
    cases hframes.symm.trans hsequence
  | rejoin hyield => simp [Poised, hyield, hframes] at hpoised
  | _ => simp_all

/-- The last frame is left with the flow to go on only where a sequence has come to its end. -/
theorem Move.of_emptied (hmove : s.Move settings s') {frame : Frame} {rest : List Frame}
    (hframes : s.frames = frame :: rest) (hempty : s'.frames = [])
    (hnext : s'.control = .leave .next) :
    rest = [] ∧ ∀ scope commands index, frame = .sequence scope commands index →
      s.control = .fetch ∧ commands[index]? = none := by
  cases hmove with
  | finish hfetch hbefore hflow =>
    cases hframes.symm.trans hbefore
    cases hnext
    refine ⟨hempty, ?_⟩
    rintro scope commands index ⟨⟩
    exact ⟨hfetch, (hflow.resolve_right nofun).2⟩
  | unwind _ hbefore hnot _ =>
    cases hnext
    exact absurd rfl hnot
  | exit _ hbefore hloop _ | interrupt _ hbefore hloop _ =>
    cases hframes.symm.trans hbefore
    refine ⟨hempty, ?_⟩
    rintro scope commands index rfl
    exact hloop.elim
  | leaveCall _ hbefore =>
    cases hframes.symm.trans hbefore
    exact ⟨hempty, nofun⟩
  | _ => simp_all [enter]

end Skeleton

namespace Course

variable {settings : Settings} {commands : List Command} (c : Course settings commands)

/-- Along every course the outermost frame is the sequence of the script. -/
theorem grounded (n : Nat) : Frame.Grounded commands (c.state n).frames :=
  c.invariant (P := fun s => Frame.Grounded commands s.frames)
    (by rintro frame ⟨⟩; exact ⟨0, rfl⟩) (fun _ _ hgrounded hmove => hgrounded.move hmove) n

/-- A machine that has left all its frames without a halt has come to the end of the script. -/
theorem exists_end {n : Nat} (hframes : (c.state n).frames = [])
    (hnext : (c.state n).control = .leave .next) :
    ∃ j index, j < n ∧ (c.state j).control = .fetch ∧
      (c.state j).frames = [.sequence 0 commands index] ∧ commands.length ≤ index := by
  induction n with
  | zero =>
    rw [c.start] at hframes
    cases hframes
  | succ n ih =>
    cases hbefore : (c.state n).frames with
    | nil =>
      have hsame := (c.move n).of_nil (c.poised n) hbefore
      obtain ⟨j, index, hlt, hend⟩ := ih hbefore ((congrArg Skeleton.control hsame).symm.trans hnext)
      exact ⟨j, index, Nat.lt_succ_of_lt hlt, hend⟩
    | cons frame rest =>
      obtain ⟨rfl, hend⟩ := (c.move n).of_emptied hbefore hframes hnext
      obtain ⟨index, rfl⟩ := c.grounded n frame (by rw [hbefore]; rfl)
      obtain ⟨hfetch, hnone⟩ := hend 0 commands index rfl
      exact ⟨n, index, Nat.lt_succ_self n, hfetch, hbefore, List.getElem?_eq_none_iff.mp hnone⟩

end Course

namespace Machine

variable (m : Machine) (cancelled : Bool)

/-- A stop of its own comes first in what a run reports. -/
theorem outcome_eq_stopped_iff : m.outcome cancelled = .stopped ↔ m.stopped = true := by
  unfold outcome
  cases m.stopped <;> cases cancelled <;> simp

/-- A cancellation comes second. -/
theorem outcome_eq_cancelled_iff :
    m.outcome cancelled = .cancelled ↔ m.stopped = false ∧ cancelled = true := by
  unfold outcome
  cases m.stopped <;> cases cancelled <;> simp

/-- A run reports to be complete exactly if neither has happened. -/
theorem outcome_eq_completed_iff : m.outcome cancelled = .completed ↔ m.isHalted cancelled = false := by
  unfold outcome isHalted
  cases m.stopped <;> cases cancelled <;> simp

end Machine

namespace Run

variable {σ : Type} (settings : Settings) (d : Device σ)

/-- The caller cancels the run during the call that it makes next. -/
def CancelsIn (run : Run σ) (call : DeviceCall) : Prop :=
  run.status = .running ∧ run.machine.control.call? = some call ∧ d.cancels run.device call = true

/-- A run is cancelled after a step if it was before, or if its caller cancels it during the call of
this step. -/
theorem cancelled_step (run : Run σ) :
    (run.step settings d).cancelled = true ↔ run.cancelled = true ∨ ∃ call, run.CancelsIn d call := by
  by_cases hrunning : run.status = .running
  · rw [step_of_running settings d hrunning]
    simp only [Machine.cancelled_turn_eq, Bool.or_eq_true, CancelsIn, hrunning, true_and]
    refine or_congr_right ?_
    cases run.machine.control.call? <;> simp
  · rw [step_of_over settings d hrunning]
    simp [CancelsIn, hrunning]

variable (commands : List Command) (device : σ) (cancelled : Bool)

/-- The run of a script after some turns. -/
def reached (k : Nat) : Run σ :=
  (start settings commands device cancelled).steps settings d k

theorem reached_succ (k : Nat) : reached settings d commands device cancelled (k + 1) =
    (reached settings d commands device cancelled k).step settings d :=
  steps_succ _ _ _ _

/-- A run is cancelled by some turn exactly if it was from the start, or in a call at an earlier
one. -/
theorem cancelled_iff (k : Nat) : (reached settings d commands device cancelled k).cancelled = true ↔
    cancelled = true ∨
      ∃ j, j < k ∧ ∃ call, (reached settings d commands device cancelled j).CancelsIn d call := by
  induction k with
  | zero => simp [reached, start]
  | succ k ih => rw [reached_succ, cancelled_step, ih, or_assoc, Nat.exists_lt_succ_right]

/-- The run has to end, by a stop of its own or because it is cancelled. -/
def isHalted (run : Run σ) : Bool :=
  run.machine.isHalted run.cancelled

/-- A step dispatches a command of a run that goes on, or the machine carries on. -/
theorem dispatches_or_carriesOn (k : Nat) :
    let run := reached settings d commands device cancelled k
    (run.status = .running ∧ run.isHalted = false ∧
        ∃ command, (course settings d commands device cancelled).Dispatches k command) ∨
      run.machine.CarriesOn run.cancelled (reached settings d commands device cancelled (k + 1)).machine := by
  intro run
  have hstep := reached_succ settings d commands device cancelled k
  by_cases hrunning : run.status = .running
  · rw [step_of_running settings d hrunning] at hstep
    have hnext := congrArg Run.machine hstep
    have hpoised := (course settings d commands device cancelled).poised k
    rcases run.machine.turn_dispatches settings d run.device run.cancelled hpoised with
      ⟨scope, sequence, index, outer, command, hfetch, hframes, hcommand, hgoing, hdispatch⟩ | hcarries
    · exact .inl ⟨hrunning, hgoing, command, hfetch, scope, sequence, index, outer, hframes, hcommand,
        hnext.trans hdispatch⟩
    · exact .inr (hnext ▸ hcarries)
  · rw [step_of_over settings d hrunning] at hstep
    rw [hstep]
    exact .inr (.refl _)

variable {settings d commands device cancelled}

/-- Only a run that goes on and need not end dispatches a command. -/
theorem going_of_dispatches {k : Nat} {command : Command}
    (h : (course settings d commands device cancelled).Dispatches k command) :
    (reached settings d commands device cancelled k).status = .running ∧
      (reached settings d commands device cancelled k).isHalted = false := by
  rcases dispatches_or_carriesOn settings d commands device cancelled k with
    ⟨hrunning, hgoing, _⟩ | hcarries
  · exact ⟨hrunning, hgoing⟩
  · exact absurd hcarries h.not_carriesOn

/-- A turn that dispatches a command touches nothing but the machine. -/
theorem reached_succ_of_dispatches {k : Nat} {command : Command}
    (h : (course settings d commands device cancelled).Dispatches k command) :
    reached settings d commands device cancelled (k + 1) =
      { reached settings d commands device cancelled k with
        machine := (reached settings d commands device cancelled (k + 1)).machine } := by
  have hrunning := (going_of_dispatches h).1
  have hfetch : (reached settings d commands device cancelled k).machine.control = .fetch := h.1
  rw [reached_succ, step_of_running settings d hrunning, Machine.turn, hfetch]
  simp [Signal.slept, Signal.status, hrunning]

/-- Neither flag is taken back. -/
theorem isHalted_succ {k : Nat} (h : (reached settings d commands device cancelled k).isHalted = true) :
    (reached settings d commands device cancelled (k + 1)).isHalted = true := by
  rcases dispatches_or_carriesOn settings d commands device cancelled k with ⟨_, hgoing, _⟩ | hcarries
  · cases hgoing.symm.trans h
  · simp only [isHalted, Machine.isHalted, Bool.or_eq_true, hcarries.stopped] at h ⊢
    refine h.imp_left fun hcancelled => ?_
    rw [reached_succ, cancelled_step]
    exact .inl hcancelled

/-- A run that has to end dispatches nothing more. -/
theorem not_dispatches_of_isHalted {j i : Nat}
    (h : (reached settings d commands device cancelled j).isHalted = true) (hle : j ≤ i)
    (command : Command) : ¬ (course settings d commands device cancelled).Dispatches i command := by
  have hhalted : (reached settings d commands device cancelled i).isHalted = true := by
    obtain ⟨more, rfl⟩ := Nat.exists_eq_add_of_le hle
    induction more with
    | zero => exact h
    | succ more ih => exact isHalted_succ (ih (Nat.le_add_right _ _))
  intro hdispatch
  cases (going_of_dispatches hdispatch).2.symm.trans hhalted

/-- A halt is on its way only in a run that has to end. -/
theorem isHalted_of_halt {k : Nat}
    (hhalt : (reached settings d commands device cancelled k).machine.control = .leave .halt) :
    (reached settings d commands device cancelled k).isHalted = true := by
  induction k with
  | zero => cases hhalt
  | succ k ih =>
    rcases dispatches_or_carriesOn settings d commands device cancelled k with
      ⟨_, _, command, hdispatch⟩ | hcarries
    · have hstop : command.isStop = true := hdispatch.performs.halts.mp hhalt
      have hstopped : (reached settings d commands device cancelled (k + 1)).machine.stopped =
          ((reached settings d commands device cancelled k).machine.stopped || command.isStop) :=
        hdispatch.performs.stopped
      rw [isHalted, Machine.isHalted, hstopped, hstop, Bool.or_true, Bool.or_true]
    · exact isHalted_succ ((hcarries.halts hhalt).elim ih id)

/-- Once a stop has been dispatched the run has to end. -/
theorem isHalted_of_stop {j i line : Nat}
    (hstop : (course settings d commands device cancelled).Dispatches j (.leaf line .stop)) (hlt : j < i) :
    (reached settings d commands device cancelled i).machine.stopped = true ∧
      (reached settings d commands device cancelled i).isHalted = true := by
  have hstopped : (reached settings d commands device cancelled i).machine.stopped = true :=
    ((course settings d commands device cancelled).stopped_iff i).mpr ⟨j, hlt, line, hstop⟩
  exact ⟨hstopped, by rw [isHalted, Machine.isHalted, hstopped, Bool.or_true]⟩

/-- Once the caller has cancelled the run it has to end. -/
theorem isHalted_of_cancelsIn {j : Nat} {call : DeviceCall}
    (hcancels : (reached settings d commands device cancelled j).CancelsIn d call) :
    (reached settings d commands device cancelled (j + 1)).isHalted = true := by
  have hcancelled : (reached settings d commands device cancelled (j + 1)).cancelled = true := by
    rw [reached_succ, cancelled_step]
    exact .inr ⟨call, hcancels⟩
  rw [isHalted, Machine.isHalted, hcancelled, Bool.true_or]

/-- A run that stops itself is cancelled neither before nor after. -/
theorem not_cancelled_of_stop {j line : Nat}
    (hstop : (course settings d commands device cancelled).Dispatches j (.leaf line .stop)) (i : Nat) :
    (reached settings d commands device cancelled i).cancelled = false := by
  have hbefore : ¬ (reached settings d commands device cancelled j).cancelled = true := by
    intro hcancelled
    have hgoing := (going_of_dispatches hstop).2
    rw [isHalted, Machine.isHalted, hcancelled, Bool.true_or] at hgoing
    cases hgoing
  rw [cancelled_iff] at hbefore
  refine Bool.eq_false_iff.mpr fun hcancelled => hbefore ?_
  rcases (cancelled_iff settings d commands device cancelled i).mp hcancelled with
    hstart | ⟨l, _, call, hcancels⟩
  · exact .inl hstart
  · refine .inr ⟨l, ?_, call, hcancels⟩
    -- The stop itself makes no call, and neither does any turn after it.
    refine Decidable.byContradiction fun hnot => ?_
    rcases Nat.eq_or_lt_of_le (Nat.not_lt.mp hnot) with rfl | hafter
    · have hfetch : (reached settings d commands device cancelled j).machine.control = .fetch := hstop.1
      have hcall := hcancels.2.1
      rw [hfetch] at hcall
      cases hcall
    · have hnone := (course settings d commands device cancelled).noCall_of_stopped l
        (isHalted_of_stop hstop hafter).1
      cases hnone.symm.trans hcancels.2.1

variable (settings d commands device cancelled)

/-- What the outcome after `k` turns tells of a run: whether the script or the caller has ended it, or
neither, and that nothing has been dispatched afterwards. -/
structure OutcomeTells (k : Nat) : Prop where
  stoppedIff : (reached settings d commands device cancelled k).report.outcome = .stopped ↔
    ∃ j line, (course settings d commands device cancelled).Dispatches j (.leaf line .stop)
  /-- A stop is the last command, no call follows it, and it does not cancel anything of the caller. -/
  afterStop : ∀ j line, (course settings d commands device cancelled).Dispatches j (.leaf line .stop) →
    ∀ i, (reached settings d commands device cancelled i).cancelled = false ∧
      (j < i → (reached settings d commands device cancelled i).machine.control.call? = none ∧
        ∀ command, ¬ (course settings d commands device cancelled).Dispatches i command)
  cancelledIff : (reached settings d commands device cancelled k).report.outcome = .cancelled ↔
    cancelled = true ∨ ∃ j call, (reached settings d commands device cancelled j).CancelsIn d call
  /-- A run that is cancelled from the start dispatches nothing. -/
  cancelledBefore : cancelled = true → ∀ i command,
    ¬ (course settings d commands device cancelled).Dispatches i command
  /-- A run that is cancelled during a call dispatches nothing after the command that makes it. -/
  cancelledDuring : ∀ j call, (reached settings d commands device cancelled j).CancelsIn d call →
    ∀ i command, j < i → ¬ (course settings d commands device cancelled).Dispatches i command
  /-- A run that has completed has looked for a command behind the last one of the script. -/
  completed : (reached settings d commands device cancelled k).report.outcome = .completed →
    ∃ j index, j < k ∧ (reached settings d commands device cancelled j).machine.control = .fetch ∧
      (reached settings d commands device cancelled j).machine.frames = [.sequence 0 commands index] ∧
      commands.length ≤ index

variable {settings d commands device cancelled} {k : Nat}

/-- A run that is over stays as it is. -/
theorem reached_of_finished (hfinished : (reached settings d commands device cancelled k).status = .finished)
    {i : Nat} (hle : k ≤ i) :
    reached settings d commands device cancelled i = reached settings d commands device cancelled k := by
  obtain ⟨more, rfl⟩ := Nat.exists_eq_add_of_le hle
  have hover : (reached settings d commands device cancelled k).status ≠ .running := by
    rw [hfinished]
    nofun
  exact (steps_add settings d k more _).trans (steps_of_over settings d hover more)

/-- A run goes on only before it is finished. -/
theorem lt_of_running (hfinished : (reached settings d commands device cancelled k).status = .finished)
    {j : Nat} (hrunning : (reached settings d commands device cancelled j).status = .running) : j < k := by
  refine Nat.lt_of_not_le fun hle => ?_
  rw [reached_of_finished hfinished hle, hfinished] at hrunning
  cases hrunning

/-- A finished run has stopped itself exactly if it has dispatched a stop. -/
theorem exists_stop_iff (hfinished : (reached settings d commands device cancelled k).status = .finished) :
    (reached settings d commands device cancelled k).machine.stopped = true ↔
      ∃ j line, (course settings d commands device cancelled).Dispatches j (.leaf line .stop) := by
  refine ((course settings d commands device cancelled).stopped_iff k).trans ⟨?_, ?_⟩
  · rintro ⟨j, _, line, hstop⟩
    exact ⟨j, line, hstop⟩
  · rintro ⟨j, line, hstop⟩
    exact ⟨j, lt_of_running hfinished (going_of_dispatches hstop).1, line, hstop⟩

/-- A finished run is cancelled exactly if its caller has cancelled it, from the start or during a
call. -/
theorem exists_cancellation_iff
    (hfinished : (reached settings d commands device cancelled k).status = .finished) :
    (reached settings d commands device cancelled k).cancelled = true ↔ cancelled = true ∨
      ∃ j call, (reached settings d commands device cancelled j).CancelsIn d call := by
  refine (cancelled_iff settings d commands device cancelled k).trans (or_congr_right ⟨?_, ?_⟩)
  · rintro ⟨j, _, call, hcancels⟩
    exact ⟨j, call, hcancels⟩
  · rintro ⟨j, call, hcancels⟩
    exact ⟨j, lt_of_running hfinished hcancels.1, call, hcancels⟩

/-- A run that finishes of its own accord has come to the end of the script, with all other frames
left. -/
theorem completed_end (hfinished : (reached settings d commands device cancelled k).status = .finished)
    (hgoing : (reached settings d commands device cancelled k).isHalted = false) :
    ∃ j index, j < k ∧ (reached settings d commands device cancelled j).machine.control = .fetch ∧
      (reached settings d commands device cancelled j).machine.frames = [.sequence 0 commands index] ∧
      commands.length ≤ index := by
  have hend := isFinished_of_finished settings d commands device cancelled k hfinished
  obtain ⟨hframes, flow, hleave⟩ := (Machine.isFinished_eq_true_iff _).mp hend
  have hnext : flow = .next := by
    cases flow with
    | next => rfl
    | jump target =>
      -- The sequence that a jump goes to is still open.
      obtain ⟨inner, owner, index, outer, hsplit, _⟩ :=
        (course settings d commands device cancelled).jumpsLand k target hleave
      have hopen := hframes.symm.trans hsplit
      simp at hopen
    | halt => cases hgoing.symm.trans (isHalted_of_halt hleave)
  exact (course settings d commands device cancelled).exists_end hframes (hnext ▸ hleave)

/-- The report of a run that has come to its end says truthfully what has ended it. -/
theorem outcome_truthful (hfinished : (reached settings d commands device cancelled k).status = .finished) :
    OutcomeTells settings d commands device cancelled k where
  stoppedIff := (Machine.outcome_eq_stopped_iff _ _).trans (exists_stop_iff hfinished)
  afterStop := by
    intro j line hstop i
    refine ⟨not_cancelled_of_stop hstop i, fun hlt => ?_⟩
    obtain ⟨hstopped, hhalted⟩ := isHalted_of_stop hstop hlt
    exact ⟨(course settings d commands device cancelled).noCall_of_stopped i hstopped,
      not_dispatches_of_isHalted hhalted (Nat.le_refl i)⟩
  cancelledIff := by
    refine (Machine.outcome_eq_cancelled_iff _ _).trans ?_
    rw [← exists_cancellation_iff hfinished]
    refine and_iff_right_of_imp fun hcancelled => Bool.eq_false_iff.mpr fun hstopped => ?_
    obtain ⟨j, line, hstop⟩ := (exists_stop_iff hfinished).mp hstopped
    cases (not_cancelled_of_stop hstop k).symm.trans hcancelled
  cancelledBefore := by
    rintro rfl i command
    exact not_dispatches_of_isHalted (j := 0) rfl (Nat.zero_le i) command
  cancelledDuring := by
    intro j call hcancels i command hlt
    refine not_dispatches_of_isHalted (isHalted_of_cancelsIn hcancels) hlt command
  completed hcompleted := completed_end hfinished ((Machine.outcome_eq_completed_iff _ _).mp hcompleted)

/-- A script that stops in a function which it calls in a loop inside a branch. -/
def stopsInside : List Command :=
  [.function 1 "quit" [.leaf 2 (.logVariable "n"), .leaf 3 .stop, .leaf 4 (.logVariable "n")],
    .branch 6 "$n == $n" [.counted 7 ⟨12, by decide, by decide⟩ none [.leaf 8 (.call "quit")]] [],
    .leaf 11 (.logVariable "n")]

/-- The script says that it has stopped itself, and the stop in the function is where it ends. -/
theorem stopsInside_stopped :
    let run := reached Settings.default Rehearsal.device stopsInside (.plain (.new [] [] false)) false
    let c := course Settings.default Rehearsal.device stopsInside (.plain (.new [] [] false)) false
    (run 40).status = .finished ∧ (run 40).report.outcome = .stopped ∧ (run 40).report.steps = 6 ∧
      ∃ j line, c.Dispatches j (.leaf line .stop) ∧
        ∀ i, j < i → (run i).machine.control.call? = none ∧ ∀ command, ¬ c.Dispatches i command := by
  intro run c
  have hfinished : (run 40).status = .finished := by decide
  have houtcome : (run 40).report.outcome = .stopped := by decide
  have hsteps : (run 40).report.steps = 6 := by decide
  have htells := outcome_truthful hfinished
  obtain ⟨j, line, hstop⟩ := htells.stoppedIff.mp houtcome
  exact ⟨hfinished, houtcome, hsteps, j, line, hstop, fun i => (htells.afterStop j line hstop i).2⟩

end Run

end TouchScript
