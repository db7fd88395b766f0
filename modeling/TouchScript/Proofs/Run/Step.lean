import TouchScript.Run

namespace TouchScript

namespace Signal

/-- How far a run has come when a turn has ended with this signal. -/
def status : Signal → RunStatus
  | .proceed | .sleep _ | .yield => .running
  | .finished => .finished
  | .crashed o => .crashed o

/-- How long a run sleeps after a turn that has ended with this signal. -/
def slept : Signal → Nat
  | .sleep ms => Clock.sleepTime ms
  | _ => 0

end Signal

namespace Run

variable {σ : Type} (settings : Settings) (d : Device σ)

/-- A run that goes on takes what a turn of its machine leaves, and adds the sleep of the turn to
its time. -/
theorem step_of_running {run : Run σ} (hrunning : run.status = .running) :
    run.step settings d =
      let turn := run.machine.turn settings d run.device run.cancelled
      ⟨turn.machine, turn.device, turn.cancelled, run.elapsed + turn.signal.slept,
        turn.signal.status⟩ := by
  unfold step
  rw [hrunning]
  dsimp only
  split <;> simp_all [Signal.slept, Signal.status]

/-- A run that is over stays as it is. -/
theorem step_of_over {run : Run σ} (hover : run.status ≠ .running) : run.step settings d = run := by
  unfold step
  split
  next hrunning => exact absurd hrunning hover
  next => rfl

@[simp]
theorem steps_zero (run : Run σ) : steps settings d 0 run = run := rfl

/-- The last of some steps is taken from where the others have led. -/
theorem steps_succ (n : Nat) (run : Run σ) :
    steps settings d (n + 1) run = (steps settings d n run).step settings d := by
  induction n generalizing run with
  | zero => rfl
  | succ n ih => exact ih (run.step settings d)

/-- Steps may be taken in two portions. -/
theorem steps_add (n k : Nat) (run : Run σ) :
    steps settings d (n + k) run = steps settings d k (steps settings d n run) := by
  induction k with
  | zero => rfl
  | succ k ih => rw [← Nat.add_assoc, steps_succ, ih, ← steps_succ]

/-- No number of steps changes a run that is over. -/
theorem steps_of_over {run : Run σ} (hover : run.status ≠ .running) (n : Nat) :
    steps settings d n run = run := by
  induction n with
  | zero => rfl
  | succ n ih => rw [steps_succ, ih, step_of_over settings d hover]

end Run

namespace Machine

variable {σ : Type} (settings : Settings) (d : Device σ) (m : Machine) (device : σ) (cancelled : Bool)

/-- A machine is finished when it hands on a flow and no frame is left to take it. -/
theorem isFinished_eq_true_iff : m.isFinished = true ↔ m.frames = [] ∧ ∃ flow, m.control = .leave flow := by
  unfold isFinished
  split
  next flow hframes hcontrol => simp [hframes, hcontrol]
  next hnot =>
    simp only [Bool.false_eq_true, false_iff, not_and, not_exists]
    intro hframes flow hcontrol
    exact hnot flow hframes hcontrol

/-- A call that ends the run has broken down, and leaves the machine as it was. -/
theorem machine_afterCall_of_over {α : Type} (answer : Answer α)
    (resume : Except DeviceError α → Machine)
    (hover : (m.afterCall device cancelled answer resume).signal.status ≠ .running) :
    (m.afterCall device cancelled answer resume).machine = m := by
  have hsleep : (answer.sleep.elim Signal.proceed Signal.sleep).status = .running := by
    cases answer.sleep <;> rfl
  unfold afterCall at hover ⊢
  cases hreply : answer.reply with
  | crash o => rfl
  | ok result => simp [hreply, hsleep] at hover
  | error e => simp [hreply, hsleep] at hover

/-- A turn that ends a run leaves its machine as it was: without frames, or inside a call. -/
theorem machine_turn_of_over (hover : (m.turn settings d device cancelled).signal.status ≠ .running) :
    (m.turn settings d device cancelled).machine = m ∧
      (m.isFinished = true ∨ (∃ line g, m.control = .perform line g) ∨
        ∃ line lookup, m.control = .search line lookup) := by
  unfold turn at hover ⊢
  cases hcontrol : m.control with
  | leave flow =>
    rw [hcontrol] at hover
    by_cases hfinished : m.isFinished = true
    · simp [hfinished]
    · simp [hfinished, Signal.status] at hover
  | perform line g =>
    rw [hcontrol] at hover
    exact ⟨machine_afterCall_of_over _ _ _ _ _ hover, .inr (.inl ⟨line, g, rfl⟩)⟩
  | search line lookup =>
    rw [hcontrol] at hover
    exact ⟨machine_afterCall_of_over _ _ _ _ _ hover, .inr (.inr ⟨line, lookup, rfl⟩)⟩
  | _ =>
    rw [hcontrol] at hover
    exact absurd rfl hover

/-- A call may break a run down, but does not finish it. -/
theorem status_afterCall_ne_finished {α : Type} (answer : Answer α)
    (resume : Except DeviceError α → Machine) :
    (m.afterCall device cancelled answer resume).signal.status ≠ .finished := by
  unfold afterCall
  cases answer.reply with
  | crash o => nofun
  | ok _ | error _ => cases answer.sleep <;> nofun

/-- Only a machine without frames finishes its run. -/
theorem isFinished_of_turn (hfinished : (m.turn settings d device cancelled).signal.status = .finished) :
    (m.turn settings d device cancelled).machine.isFinished = true := by
  obtain ⟨hmachine, hwhy⟩ := machine_turn_of_over settings d m device cancelled (by simp [hfinished])
  rw [hmachine]
  unfold turn at hfinished
  rcases hwhy with hover | ⟨line, g, hcontrol⟩ | ⟨line, lookup, hcontrol⟩
  · exact hover
  · rw [hcontrol] at hfinished
    exact absurd hfinished (status_afterCall_ne_finished _ _ _ _ _)
  · rw [hcontrol] at hfinished
    exact absurd hfinished (status_afterCall_ne_finished _ _ _ _ _)

end Machine

/-- A run that has finished has left all its frames. -/
theorem Run.isFinished_of_finished {σ : Type} (settings : Settings) (d : Device σ)
    (commands : List Command) (device : σ) (cancelled : Bool) (n : Nat)
    (hfinished : ((start settings commands device cancelled).steps settings d n).status = .finished) :
    ((start settings commands device cancelled).steps settings d n).machine.isFinished = true := by
  induction n with
  | zero => cases hfinished
  | succ n ih =>
    rw [steps_succ] at hfinished ⊢
    by_cases hrunning : ((start settings commands device cancelled).steps settings d n).status = .running
    · rw [step_of_running settings d hrunning] at hfinished ⊢
      exact Machine.isFinished_of_turn settings d _ _ _ hfinished
    · rw [step_of_over settings d hrunning] at hfinished ⊢
      exact ih hfinished

end TouchScript
