import TouchScript.Proofs.Machine.Ledger
import TouchScript.Proofs.Run.Calls

namespace TouchScript

namespace Control

/-- How many turns a halted machine may take before it looks at its innermost frame. -/
def delay : Control → Nat
  | .pause _ => 3
  | .leave _ => 2
  | .yield => 1
  | _ => 0

end Control

namespace Machine

variable {σ : Type} (settings : Settings) (m : Machine)

/-- A bound on the turns that a halted machine still takes. -/
def remaining : Nat :=
  3 * m.frames.length + m.control.delay

/-- What a turn of a halted machine does: the frames become fewer or the machine comes closer to
leaving one, no call is made, and the report stays. -/
structure Unwinds (cancelled : Bool) (m m' : Machine) : Prop where
  remaining : m'.remaining < m.remaining
  noCall : m'.control.call? = none
  stopped : m'.stopped = m.stopped
  report : m'.report cancelled = m.report cancelled

/-- To leave a sequence makes the frames fewer and calls nothing. -/
theorem unwinds_exitSequence {cancelled : Bool} {frame : Frame} {outer : List Frame}
    (hframes : m.frames = frame :: outer) (flow : Flow) :
    Unwinds cancelled m (m.exitSequence outer flow) := by
  refine ⟨?_, rfl, rfl, rfl⟩
  simp [remaining, hframes, exitSequence, Control.delay]
  omega

/-- To leave a loop makes the frames fewer and calls nothing. -/
theorem unwinds_exitLoop {cancelled : Bool} {frame : Frame} {outer : List Frame}
    (hframes : m.frames = frame :: outer) (flow : Flow) :
    Unwinds cancelled m (m.exitLoop outer flow) := by
  refine ⟨?_, rfl, rfl, rfl⟩
  simp [remaining, hframes, exitLoop, Control.delay]
  omega

/-- A halted machine leaves its sequence where it would look at a command. -/
theorem unwinds_fetch {cancelled : Bool} (hcontrol : m.control = .fetch) (hpoised : m.skeleton.Poised)
    (hhalted : m.isHalted cancelled = true) : Unwinds cancelled m (m.fetch settings cancelled) := by
  unfold fetch
  split
  next scope commands index outer hframes =>
    rw [if_pos hhalted]
    exact unwinds_exitSequence m hframes .halt
  next hframes =>
    simp only [Skeleton.Poised, skeleton, hcontrol] at hpoised

/-- A halted machine leaves its loop where it would begin a pass. -/
theorem unwinds_again {cancelled : Bool} (hcontrol : m.control = .again) (hpoised : m.skeleton.Poised)
    (hhalted : m.isHalted cancelled = true) : Unwinds cancelled m (m.again settings cancelled) := by
  unfold again
  split
  next condition body outer hframes =>
    rw [if_pos hhalted]
    exact unwinds_exitLoop m hframes .halt
  next count passes counter body outer hframes =>
    split
    next => exact unwinds_exitLoop m hframes .next
    next => exact unwinds_exitLoop m hframes .halt
  next => simp only [Skeleton.Poised, skeleton, hcontrol] at hpoised

/-- A flow that is handed on makes the frames fewer, or leads to where a halted machine leaves its
frame. -/
theorem unwinds_leave {cancelled : Bool} {flow : Flow} (hcontrol : m.control = .leave flow)
    (hframes : m.frames ≠ []) : Unwinds cancelled m (m.leave flow) := by
  have hstay (m' : Machine) (hsize : m'.frames.length = m.frames.length)
      (hdelay : m'.control.delay < 2) (hcall : m'.control.call? = none) (hstopped : m'.stopped = m.stopped)
      (hreport : m'.report cancelled = m.report cancelled) : Unwinds cancelled m m' := by
    refine ⟨?_, hcall, hstopped, hreport⟩
    simp only [remaining, hsize, hcontrol, Control.delay] at hdelay ⊢
    omega
  unfold leave
  split
  next hnone => exact absurd hnone hframes
  next scope commands index outer hframes =>
    cases flow with
    | next => exact hstay _ (by simp [hframes]) Nat.zero_lt_two rfl rfl rfl
    | jump target =>
      dsimp only
      split
      · exact hstay _ (by simp [hframes]) Nat.zero_lt_two rfl rfl rfl
      · exact unwinds_exitSequence m hframes _
    | halt => exact unwinds_exitSequence m hframes _
  next condition body outer hframes =>
    cases flow with
    | next => exact hstay _ rfl Nat.one_lt_two rfl rfl rfl
    | jump target => exact unwinds_exitLoop m hframes _
    | halt => exact unwinds_exitLoop m hframes _
  next count passes counter body outer hframes =>
    cases flow with
    | next => exact hstay _ rfl Nat.zero_lt_two rfl rfl rfl
    | jump target => exact unwinds_exitLoop m hframes _
    | halt => exact unwinds_exitLoop m hframes _
  next floor outer hframes =>
    refine ⟨?_, rfl, rfl, rfl⟩
    simp [remaining, hframes, exitCall, hcontrol, Control.delay]

/-- A halted machine that waits for no call is finished, or it unwinds without the device. -/
theorem turn_halted (d : Device σ) (device : σ) {cancelled : Bool} (hpoised : m.skeleton.Poised)
    (hcall : m.control.call? = none) (hhalted : m.isHalted cancelled = true) :
    m.isFinished = true ∧ m.turn settings d device cancelled = ⟨m, device, cancelled, .finished⟩ ∨
      ∃ m' signal, m.turn settings d device cancelled = ⟨m', device, cancelled, signal⟩ ∧
        signal.status = .running ∧ Unwinds cancelled m m' := by
  unfold turn
  cases hcontrol : m.control with
  | fetch => exact .inr ⟨_, _, rfl, rfl, unwinds_fetch settings m hcontrol hpoised hhalted⟩
  | again => exact .inr ⟨_, _, rfl, rfl, unwinds_again settings m hcontrol hpoised hhalted⟩
  | leave flow =>
    by_cases hfinished : m.isFinished = true
    · simp [hfinished]
    · have hframes : m.frames ≠ [] := by
        intro hnone
        exact hfinished ((isFinished_eq_true_iff m).mpr ⟨hnone, flow, hcontrol⟩)
      simp only [hfinished]
      exact .inr ⟨_, _, rfl, rfl, unwinds_leave m hcontrol hframes⟩
  | pause duration =>
    refine .inr ⟨_, _, rfl, rfl, ?_, rfl, rfl, rfl⟩
    simp [remaining, hcontrol, next, goOn, Control.delay]
  | yield =>
    refine .inr ⟨_, _, rfl, rfl, ?_, rfl, rfl, rfl⟩
    simp [remaining, hcontrol, goOn, Control.delay]
  | _ => simp [hcontrol, Control.call?] at hcall

end Machine

/-- A run that has stopped itself is not in the middle of a call. -/
theorem Course.noCall_of_stopped {settings : Settings} {commands : List Command}
    (c : Course settings commands) (n : Nat) (hstopped : (c.state n).stopped = true) :
    (c.state n).control.call? = none := by
  induction n with
  | zero =>
    rw [c.start] at hstopped
    cases hstopped
  | succ n ih =>
    by_cases hbefore : (c.state n).stopped = true
    · obtain ⟨σ, d, device, cancelled, hturn⟩ := c.turn n
      have hhalted : (c.state n).isHalted cancelled = true := by
        simp [Machine.isHalted, hbefore]
      rw [hturn]
      rcases Machine.turn_halted settings _ d device (c.poised n) (ih hbefore) hhalted with
        ⟨_, hsame⟩ | ⟨m', signal, hnext, _, hunwinds⟩
      · rw [hsame]
        exact ih hbefore
      · rw [hnext]
        exact hunwinds.noCall
    · rw [c.halts_of_stopped hbefore hstopped]
      rfl

/-- A halted run that waits for no call comes to its end by itself, with the report it has. -/
theorem Run.exists_finished {σ : Type} (settings : Settings) (d : Device σ) (run : Run σ)
    (hrunning : run.status = .running) (hpoised : run.machine.skeleton.Poised)
    (hcall : run.machine.control.call? = none) (hhalted : run.machine.isHalted run.cancelled = true) :
    ∃ k, (run.steps settings d k).status = .finished ∧ (run.steps settings d k).device = run.device ∧
      (run.steps settings d k).report = run.report := by
  -- Every turn but the last lowers the bound on the turns that remain.
  generalize hsize : run.machine.remaining = size
  induction size using Nat.strongRecOn generalizing run with
  | ind size ih =>
    have hstep := step_of_running settings d hrunning
    rcases Machine.turn_halted settings run.machine d run.device hpoised hcall hhalted with
      ⟨_, hturn⟩ | ⟨m', signal, hturn, hsignal, hunwinds⟩
    · refine ⟨1, ?_⟩
      rw [steps_succ, steps_zero, hstep, hturn]
      exact ⟨rfl, rfl, rfl⟩
    · have hmove := Machine.turn_move settings run.machine d run.device run.cancelled hpoised
      rw [hturn] at hstep hmove
      have hmachine : (run.step settings d).machine = m' := by rw [hstep]
      have hstatus : (run.step settings d).status = .running := by rw [hstep, ← hsignal]
      have hcancelled : (run.step settings d).cancelled = run.cancelled := by rw [hstep]
      have hhalted' : m'.isHalted run.cancelled = true := by
        rw [Machine.isHalted, hunwinds.stopped]
        exact hhalted
      obtain ⟨k, hfinished, hdevice, hreport⟩ := ih m'.remaining (hsize ▸ hunwinds.remaining) _ hstatus
        (hmachine ▸ hpoised.move hmove) (hmachine ▸ hunwinds.noCall)
        (by rw [hmachine, hcancelled, hhalted']) (by rw [hmachine])
      refine ⟨1 + k, ?_⟩
      rw [steps_add, steps_succ, steps_zero]
      refine ⟨hfinished, hdevice.trans (by rw [hstep]), hreport.trans ?_⟩
      rw [report, hmachine, hcancelled]
      exact hunwinds.report

end TouchScript
