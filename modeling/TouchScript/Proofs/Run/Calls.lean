import TouchScript.Proofs.Machine.Move
import TouchScript.Proofs.Run.Step

namespace TouchScript

/-- A call that a run makes to its device. -/
inductive DeviceCall where
  | gesture (g : Gesture Millis)
  | search (path : String)
  | tell (call : LogCall Millis)
deriving DecidableEq

/-- The call that the machine makes at its next turn, if it makes one. -/
def Control.call? : Control → Option DeviceCall
  | .perform _ g => some (.gesture g)
  | .search _ lookup => some (.search lookup.path)
  | .tell call => some (.tell call)
  | _ => none

/-- A device that lists its calls and cancels the run at the start of one of them, if at all. -/
def Device.logged {σ : Type} (d : Device σ) (cancelAt : Option Nat) : Device (σ × List DeviceCall) where
  perform state g :=
    let (answer, device) := d.perform state.1 g
    ({ answer with cancels := cancelAt == some (state.2.length + 1) }, device, state.2 ++ [.gesture g])
  search state path :=
    let (answer, device) := d.search state.1 path
    ({ answer with cancels := cancelAt == some (state.2.length + 1) }, device, state.2 ++ [.search path])
  tell state call :=
    let (events, _, device) := d.tell state.1 call
    (events, cancelAt == some (state.2.length + 1), device, state.2 ++ [.tell call])

/-- Whether a device cancels the run during a call. -/
def Device.cancels {σ : Type} (d : Device σ) (device : σ) : DeviceCall → Bool
  | .gesture g => (d.perform device g).1.cancels
  | .search path => (d.search device path).1.cancels
  | .tell call => (d.tell device call).2.1

namespace Machine

variable {σ : Type} (settings : Settings) (m : Machine)

/-- A run is cancelled during calls only, and a cancellation is not taken back. -/
theorem cancelled_turn_eq (d : Device σ) (device : σ) (cancelled : Bool) :
    (m.turn settings d device cancelled).cancelled =
      (cancelled || m.control.call?.any (d.cancels device)) := by
  have hcall {α : Type} (after : σ) (answer : Answer α) (resume : Except DeviceError α → Machine) :
      (m.afterCall after cancelled answer resume).cancelled = (cancelled || answer.cancels) := by
    unfold afterCall
    cases answer.reply <;> rfl
  unfold turn
  cases m.control with
  | perform line g => exact hcall _ _ _
  | search line lookup => exact hcall _ _ _
  | tell call => rfl
  | leave flow => by_cases hfinished : m.isFinished = true <;> simp [hfinished, Control.call?]
  | _ => exact (Bool.or_false cancelled).symm

/-- A call has come back: the current command is about to finish, at once or after a pause. -/
structure Returned (m m' : Machine) : Prop where
  frames : m'.frames = m.frames
  steps : m'.steps = m.steps
  stopped : m'.stopped = m.stopped
  control : m'.control = .leave .next ∨ ∃ duration, m'.control = .pause duration

/-- After a gesture the command is about to finish, whether or not the screen has to settle. -/
theorem returned_performed (line : Nat) (g : Gesture Millis) (result : Except DeviceError Unit) :
    Returned m (m.performed settings line g result) := by
  unfold performed
  cases result with
  | ok _ =>
    dsimp only
    split
    · exact ⟨rfl, rfl, rfl, .inl rfl⟩
    · exact ⟨rfl, rfl, rfl, .inr ⟨_, rfl⟩⟩
  | error e =>
    dsimp only
    split
    · exact ⟨rfl, rfl, rfl, .inl rfl⟩
    · exact ⟨rfl, rfl, rfl, .inr ⟨_, rfl⟩⟩

/-- After a search the command is about to finish. -/
theorem returned_searched (line : Nat) (lookup : ImageLookup) (result : Except DeviceError ImageMatch) :
    Returned m (m.searched line lookup result) := by
  unfold searched
  cases result with
  | ok answer => exact ⟨rfl, rfl, rfl, .inl rfl⟩
  | error e => exact ⟨rfl, rfl, rfl, .inl rfl⟩

/-- After a line of log the command is about to finish, with whatever events. -/
theorem returned_told (events : List Event) : Returned m (events.foldl note m).next := by
  obtain ⟨noted, hnoted⟩ := m.foldl_note_eq events
  rw [hnoted]
  exact ⟨rfl, rfl, rfl, .inl rfl⟩

/-- A turn that makes no call is the same with every device and leaves the device alone. -/
theorem turn_of_noCall (hcall : m.control.call? = none) (d e : Device σ) (device : σ)
    (cancelled : Bool) :
    m.turn settings d device cancelled = m.turn settings e device cancelled ∧
      (m.turn settings d device cancelled).device = device ∧
      (m.turn settings d device cancelled).cancelled = cancelled := by
  unfold turn
  cases hcontrol : m.control with
  | fetch => exact ⟨rfl, rfl, rfl⟩
  | again => exact ⟨rfl, rfl, rfl⟩
  | leave flow => by_cases hfinished : m.isFinished = true <;> simp [hfinished]
  | pause duration => exact ⟨rfl, rfl, rfl⟩
  | yield => exact ⟨rfl, rfl, rfl⟩
  | _ => simp [hcontrol, Control.call?] at hcall

/-- After a call the run goes on with a machine whose call has come back, or the call has broken
down and the machine is as it was. -/
theorem afterCall_cases {α : Type} {m : Machine} (device : σ) (cancelled : Bool) (answer : Answer α)
    {resume : Except DeviceError α → Machine} (hresume : ∀ result, Returned m (resume result)) :
    ((m.afterCall device cancelled answer resume).signal.status = .running ∧
        Returned m (m.afterCall device cancelled answer resume).machine) ∨
      ∃ o, (m.afterCall device cancelled answer resume).signal.status = .crashed o := by
  have hsleep : (answer.sleep.elim Signal.proceed Signal.sleep).status = .running := by
    cases answer.sleep <;> rfl
  unfold afterCall
  cases answer.reply with
  | ok result => exact .inl ⟨hsleep, hresume (.ok result)⟩
  | error e => exact .inl ⟨hsleep, hresume (.error e)⟩
  | crash o => exact .inr ⟨o, rfl⟩

/-- A turn that makes a call brings the call back, or breaks down in it. -/
theorem turn_of_call {call : DeviceCall} (hcall : m.control.call? = some call) (d : Device σ)
    (device : σ) (cancelled : Bool) :
    ((m.turn settings d device cancelled).signal.status = .running ∧
        Returned m (m.turn settings d device cancelled).machine) ∨
      ∃ o, (m.turn settings d device cancelled).signal.status = .crashed o := by
  unfold turn
  cases hcontrol : m.control with
  | perform line g => exact afterCall_cases _ _ _ (returned_performed settings m line g)
  | search line lookup => exact afterCall_cases _ _ _ (returned_searched m line lookup)
  | tell call => exact .inl ⟨rfl, returned_told m _⟩
  | _ => simp [hcontrol, Control.call?] at hcall

/-- A cancellation during a call is all that the call leaves of it. -/
theorem afterCall_cancels {α : Type} (device : σ) (cancelled cancels : Bool) (answer : Answer α)
    (resume : Except DeviceError α → Machine) :
    m.afterCall device cancelled { answer with cancels } resume =
      { m.afterCall device cancelled answer resume with cancelled := cancelled || cancels } := by
  unfold afterCall
  cases answer.reply <;> rfl

/-- The state of the device after a call does not depend on the reply. -/
theorem device_afterCall {α : Type} (device : σ) (cancelled : Bool) (answer : Answer α)
    (resume : Except DeviceError α → Machine) :
    (m.afterCall device cancelled answer resume).device = device := by
  unfold afterCall
  cases answer.reply <;> rfl

/-- A turn that makes a call enters it into the list, and cancels the run if the call has the number
that was given. Nothing else depends on that number. -/
theorem turn_logged {call : DeviceCall} (hcall : m.control.call? = some call) (d : Device σ)
    (cancelAt : Option Nat) (state : σ × List DeviceCall) (cancelled : Bool) :
    (m.turn settings (d.logged cancelAt) state cancelled).device.2 = state.2 ++ [call] ∧
      m.turn settings (d.logged cancelAt) state cancelled =
        { m.turn settings (d.logged none) state cancelled with
          cancelled := cancelled || cancelAt == some (state.2.length + 1) } := by
  unfold turn
  cases hcontrol : m.control with
  | perform line g =>
    rw [hcontrol] at hcall
    cases hcall
    constructor
    · exact congrArg Prod.snd (device_afterCall m _ _ _ _)
    · simp only [Device.logged, afterCall_cancels]
  | search line lookup =>
    rw [hcontrol] at hcall
    cases hcall
    constructor
    · exact congrArg Prod.snd (device_afterCall m _ _ _ _)
    · simp only [Device.logged, afterCall_cancels]
  | tell told =>
    rw [hcontrol] at hcall
    cases hcall
    exact ⟨rfl, rfl⟩
  | _ => simp [hcontrol, Control.call?] at hcall

end Machine

namespace Run

variable {σ : Type} (settings : Settings) (d : Device σ) {run : Run (σ × List DeviceCall)}

/-- The calls a run has made. -/
def calls (run : Run (σ × List DeviceCall)) : List DeviceCall :=
  run.device.2

/-- A step without a call leaves the list of calls. -/
theorem calls_step_of_noCall (hcall : run.machine.control.call? = none) (cancelAt : Option Nat) :
    (run.step settings (d.logged cancelAt)).calls = run.calls := by
  by_cases hrunning : run.status = .running
  · rw [step_of_running _ _ hrunning]
    exact congrArg Prod.snd (Machine.turn_of_noCall settings _ hcall _ (d.logged none) _ _).2.1
  · rw [step_of_over _ _ hrunning]

/-- A step with a call adds it to the list, whatever its reply is. -/
theorem calls_step_of_call {call : DeviceCall} (hrunning : run.status = .running)
    (hcall : run.machine.control.call? = some call) (cancelAt : Option Nat) :
    (run.step settings (d.logged cancelAt)).calls = run.calls ++ [call] := by
  rw [step_of_running _ _ hrunning]
  exact (Machine.turn_logged settings _ hcall d cancelAt run.device run.cancelled).1

/-- A step makes one call or none. -/
theorem calls_step (run : Run (σ × List DeviceCall)) (cancelAt : Option Nat) :
    (run.step settings (d.logged cancelAt)).calls = run.calls ∨
      ∃ call, run.status = .running ∧ run.machine.control.call? = some call ∧
        (run.step settings (d.logged cancelAt)).calls = run.calls ++ [call] := by
  by_cases hrunning : run.status = .running
  · cases hcall : run.machine.control.call? with
    | none => exact .inl (calls_step_of_noCall settings d hcall cancelAt)
    | some call => exact .inr ⟨call, hrunning, rfl, calls_step_of_call settings d hrunning hcall cancelAt⟩
  · rw [step_of_over _ _ hrunning]
    exact .inl rfl

/-- Calls are only added. -/
theorem calls_grow (run : Run (σ × List DeviceCall)) (cancelAt : Option Nat) (k more : Nat) :
    (run.steps settings (d.logged cancelAt) k).calls <+:
      (run.steps settings (d.logged cancelAt) (k + more)).calls := by
  induction more with
  | zero => exact List.prefix_refl _
  | succ more ih =>
    rw [← Nat.add_assoc, steps_succ]
    rcases calls_step settings d _ cancelAt with hsame | ⟨call, _, _, hadd⟩
    · rw [hsame]
      exact ih
    · rw [hadd]
      exact ih.trans (List.prefix_append _ _)

/-- A call before the one at which the run is cancelled, or after it, does not tell the runs apart. -/
theorem step_logged {n : Nat}
    (hother : run.status = .running → run.machine.control.call? ≠ none → run.calls.length + 1 ≠ n) :
    run.step settings (d.logged (some n)) = run.step settings (d.logged none) := by
  by_cases hrunning : run.status = .running
  · rw [step_of_running _ _ hrunning, step_of_running _ _ hrunning]
    cases hcall : run.machine.control.call? with
    | none => rw [(Machine.turn_of_noCall settings _ hcall _ (d.logged none) _ _).1]
    | some call =>
      have hnot : (some n == some (run.device.2.length + 1)) =
          (none == some (run.device.2.length + 1)) := by
        simpa [calls] using Ne.symm (hother hrunning (by simp [hcall]))
      rw [(Machine.turn_logged settings _ hcall d (some n) run.device run.cancelled).2, hnot,
        ← (Machine.turn_logged settings _ hcall d none run.device run.cancelled).2]
  · rw [step_of_over _ _ hrunning, step_of_over _ _ hrunning]

/-- The call at which the run is cancelled does nothing but cancel it. -/
theorem step_logged_cancels {n : Nat} {call : DeviceCall} (hrunning : run.status = .running)
    (hcall : run.machine.control.call? = some call) (hn : run.calls.length + 1 = n) :
    run.step settings (d.logged (some n)) =
      { run.step settings (d.logged none) with cancelled := true } := by
  have hnow : (some n == some (run.device.2.length + 1)) = true := by
    simpa [calls] using hn.symm
  rw [step_of_running _ _ hrunning, step_of_running _ _ hrunning,
    (Machine.turn_logged settings _ hcall d (some n) run.device run.cancelled).2, hnow]
  simp

end Run

end TouchScript
