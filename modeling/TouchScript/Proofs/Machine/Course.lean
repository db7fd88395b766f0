import TouchScript.Proofs.Machine.Move
import TouchScript.Proofs.Run.Step

namespace TouchScript

/-- The states of a machine that starts on a script and takes turn after turn. Nothing is assumed of
the surroundings: every turn may meet another device in another state, and the run may be cancelled
at any moment. What holds along every course holds of every run. -/
structure Course (settings : Settings) (commands : List Command) where
  state : Nat → Machine
  start : state 0 = Machine.start settings commands
  turn : ∀ n, ∃ (σ : Type) (d : Device σ) (device : σ) (cancelled : Bool),
    state (n + 1) = ((state n).turn settings d device cancelled).machine

namespace Course

variable {settings : Settings} {commands : List Command} (c : Course settings commands)

/-- Along a course the control fits the innermost frame at every turn. -/
theorem poised (n : Nat) : (c.state n).skeleton.Poised := by
  induction n with
  | zero =>
    rw [c.start]
    trivial
  | succ n ih =>
    obtain ⟨σ, d, device, cancelled, hturn⟩ := c.turn n
    rw [hturn]
    exact ih.move (Machine.turn_move settings (c.state n) d device cancelled ih)

/-- Every turn of a course is a move of its machine. -/
theorem move (n : Nat) : (c.state n).skeleton.Move settings (c.state (n + 1)).skeleton := by
  obtain ⟨σ, d, device, cancelled, hturn⟩ := c.turn n
  rw [hturn]
  exact Machine.turn_move settings (c.state n) d device cancelled (c.poised n)

/-- What holds at the start and is kept by every move holds along the whole course. -/
theorem invariant {P : Skeleton → Prop} (hstart : P (Machine.start settings commands).skeleton)
    (hmove : ∀ s s', P s → s.Move settings s' → P s') (n : Nat) : P (c.state n).skeleton := by
  induction n with
  | zero =>
    rw [c.start]
    exact hstart
  | succ n ih => exact hmove _ _ ih (c.move n)

/-- While there are frames, a flow is handed to the innermost one whatever happens around it. -/
theorem state_succ_of_leave {n : Nat} {flow : Flow} (hcontrol : (c.state n).control = .leave flow)
    (hframes : (c.state n).frames ≠ []) : c.state (n + 1) = (c.state n).leave flow := by
  obtain ⟨σ, d, device, cancelled, hturn⟩ := c.turn n
  rw [hturn, Machine.turn, hcontrol]
  dsimp only
  rw [if_neg fun hfinished => hframes (Machine.frames_of_isFinished _ hfinished)]

/-- The command that a turn dispatches. -/
def Dispatches (n : Nat) (command : Command) : Prop :=
  (c.state n).control = .fetch ∧
    ∃ scope sequence index outer, (c.state n).frames = .sequence scope sequence index :: outer ∧
      sequence[index]? = some command ∧ c.state (n + 1) = (c.state n).dispatch settings index command

end Course

namespace Run

variable {σ : Type} (settings : Settings) (d : Device σ)

/-- A run that is over has no frames left, or it has broken down inside a call. -/
def Settled (run : Run σ) : Prop :=
  run.status ≠ .running → run.machine.isFinished = true ∨
    (∃ line g, run.machine.control = .perform line g) ∨
      ∃ line lookup, run.machine.control = .search line lookup

/-- A step that ends a run leaves no frames, or has broken down in a call. -/
theorem Settled.step {run : Run σ} (hsettled : run.Settled) : (run.step settings d).Settled := by
  by_cases hrunning : run.status = .running
  · rw [step_of_running settings d hrunning]
    intro hover
    obtain ⟨hmachine, hwhy⟩ := Machine.machine_turn_of_over settings d _ _ _ hover
    simpa only [hmachine] using hwhy
  · rw [step_of_over settings d hrunning]
    exact hsettled

/-- A device that breaks down in every call that can. -/
def brokenDevice : Device Unit where
  perform device _ := (⟨.crash .addition, none, false⟩, device)
  search device _ := (⟨.crash .addition, none, false⟩, device)
  tell device _ := ([], false, device)

/-- A step of a run is a turn of its machine. Once over, the machine stays as it is, which a turn
with a broken device does as well. -/
theorem Settled.exists_turn {run : Run σ} (hsettled : run.Settled) :
    ∃ (τ : Type) (e : Device τ) (device : τ) (cancelled : Bool),
      (run.step settings d).machine = (run.machine.turn settings e device cancelled).machine := by
  by_cases hrunning : run.status = .running
  · refine ⟨σ, d, run.device, run.cancelled, ?_⟩
    rw [step_of_running settings d hrunning]
  · refine ⟨Unit, brokenDevice, (), false, ?_⟩
    rw [step_of_over settings d hrunning]
    rcases hsettled hrunning with hfinished | ⟨line, g, hcontrol⟩ | ⟨line, lookup, hcontrol⟩
    · obtain ⟨_, flow, hcontrol⟩ := (Machine.isFinished_eq_true_iff _).mp hfinished
      simp [Machine.turn, hcontrol, hfinished]
    · simp [Machine.turn, hcontrol, brokenDevice, Machine.afterCall]
    · simp [Machine.turn, hcontrol, brokenDevice, Machine.afterCall]

/-- A run that is over at any turn has no frames left, or has broken down. -/
theorem settled_steps (commands : List Command) (device : σ) (cancelled : Bool) (n : Nat) :
    ((start settings commands device cancelled).steps settings d n).Settled := by
  induction n with
  | zero => exact fun hover => absurd rfl hover
  | succ n ih =>
    rw [steps_succ]
    exact ih.step settings d

/-- Every run of a script is a course of its machine. -/
def course (commands : List Command) (device : σ) (cancelled : Bool) : Course settings commands where
  state n := ((start settings commands device cancelled).steps settings d n).machine
  start := rfl
  turn n := by
    rw [steps_succ]
    exact (settled_steps settings d commands device cancelled n).exists_turn settings d

end Run

end TouchScript
