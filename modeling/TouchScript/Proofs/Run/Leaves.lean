import TouchScript.Proofs.Machine.Gesture
import TouchScript.Proofs.Machine.Ledger
import TouchScript.Proofs.Run.Calls
import TouchScript.Proofs.Run.Refusal

namespace TouchScript

namespace Command

/-- The errors that a command can leave in a report. Each has the line of the command. -/
inductive Leaves (settings : Settings) : Command → RunError → Prop where
  | label {line : Nat} {instruction : Instruction} {label : String}
      (hlabel : instruction.jumpLabel? = some label) :
      Leaves settings (.leaf line instruction) (.labelNotFound line label)
  | function {line : Nat} {name : String} :
      Leaves settings (.leaf line (.call name)) (.functionNotFound line name)
  | depth {line : Nat} {name : String} :
      Leaves settings (.leaf line (.call name)) (.callDepthExceeded line name settings.maxCallDepth)
  | arithmetic {line : Nat} {name lhs rhs : String} {op : Operator} {left right : Number} :
      Leaves settings (.leaf line (.set name (.binary lhs op rhs))) (.arithmetic line left op right)
  | gesture {line : Nat} {g : Gesture Number} {e : DeviceError} :
      Leaves settings (.leaf line (.gesture g)) (.device line g.keyword e)
  | search {line : Nat} {lookup : ImageLookup} {e : DeviceError} :
      Leaves settings (.leaf line (.find lookup)) (.device line (Instruction.find lookup).keyword e)

/-- What a machine waits for when it has dispatched a command that makes a call. -/
inductive Awaits : Command → Control → Prop where
  | gesture {line : Nat} {g : Gesture Number} :
      Awaits (.leaf line (.gesture g)) (.perform line (g.map Number.toMillis))
  | search {line : Nat} {lookup : ImageLookup} : Awaits (.leaf line (.find lookup)) (.search line lookup)
  | log {line : Nat} {message text : String} :
      Awaits (.leaf line (.log message)) (.tell (.message text))
  | overlay {line : Nat} {message text : String} {duration : Millis} :
      Awaits (.leaf line (.overlay message)) (.tell (.overlay text duration))
  | logVariable {line : Nat} {name value : String} :
      Awaits (.leaf line (.logVariable name)) (.tell (.namedValue name value))

/-- The calls that a command can make. -/
def Makes (command : Command) (call : DeviceCall) : Prop :=
  ∃ control, command.Awaits control ∧ control.call? = some call

end Command

namespace Machine

variable {σ : Type} (settings : Settings) (m : Machine)

/-- A jump makes no call to the device. -/
theorem call?_jump (line : Nat) (label : String) : (m.jump line label).control.call? = none := by
  unfold jump
  split <;> rfl

/-- Nor does the call of a function. -/
theorem call?_call (line : Nat) (name : String) : (m.call settings line name).control.call? = none := by
  unfold call
  split
  · rfl
  · split <;> rfl

/-- A machine that has dispatched a command waits for nothing but the call of this command. -/
theorem awaits_dispatch {index : Nat} {command : Command}
    (hcall : (m.dispatch settings index command).control.call? ≠ none) :
    command.Awaits (m.dispatch settings index command).control := by
  cases command with
  | branch line condition thenBlock elseBlock =>
    obtain ⟨holds, noted, htest⟩ := (m.counting _).test_eq condition
    rw [dispatch_branch settings m htest] at hcall
    exact absurd rfl hcall
  | loop line condition body => exact absurd rfl hcall
  | counted line count counter body => exact absurd rfl hcall
  | function line name body => exact absurd rfl hcall
  | leaf line instruction =>
    rw [dispatch_leaf] at hcall ⊢
    cases instruction with
    | gesture g => exact .gesture
    | find lookup => exact .search
    | log message => exact .log
    | overlay message => exact .overlay
    | logVariable name => exact .logVariable
    | goto label => exact absurd (call?_jump _ line label) hcall
    | gotoIf condition label =>
      obtain ⟨holds, noted, htest⟩ := (m.counting (.leaf line (.gotoIf condition label))).test_eq condition
      simp only [execute, htest] at hcall
      split at hcall
      · exact absurd (call?_jump _ line label) hcall
      · exact absurd rfl hcall
    | call name => exact absurd (call?_call settings _ line name) hcall
    | get name =>
      simp only [execute] at hcall
      split at hcall <;> exact absurd rfl hcall
    | label name =>
      simp only [execute] at hcall
      split at hcall <;> exact absurd rfl hcall
    | delay ms => exact absurd rfl hcall
    | stop => exact absurd rfl hcall
    | set name source => exact absurd rfl hcall

/-- Nor does another pass of a loop. -/
theorem call?_again (cancelled : Bool) : (m.again settings cancelled).control.call? = none := by
  unfold again
  split
  · split
    · rfl
    · obtain ⟨holds, noted, htest⟩ := m.test_eq ‹String›
      simp only [htest]
      split <;> rfl
  · split
    · rfl
    · split <;> rfl
  · rfl

/-- Nor does a flow that is handed on. -/
theorem call?_leave (flow : Flow) (hcontrol : m.control = .leave flow) :
    (m.leave flow).control.call? = none := by
  unfold leave
  split
  · rw [hcontrol]
    rfl
  · cases flow with
    | jump target =>
      dsimp only
      split <;> rfl
    | _ => rfl
  · cases flow <;> rfl
  · cases flow <;> rfl
  · rfl

/-- A command whose call has come back makes no other. -/
theorem Returned.call?_eq_none {m m' : Machine} (h : Returned m m') : m'.control.call? = none := by
  rcases h.control with hcontrol | ⟨duration, hcontrol⟩
  · rw [hcontrol]
    rfl
  · rw [hcontrol]
    rfl

/-- The turn dispatches the current command. -/
def Dispatching (m' : Machine) : Prop :=
  ∃ scope commands index outer command, m.control = .fetch ∧
    m.frames = .sequence scope commands index :: outer ∧ commands[index]? = some command ∧
    m' = m.dispatch settings index command

/-- A machine that has looked at a sequence and now waits for a call has dispatched the current
command. -/
theorem dispatching_fetch {cancelled : Bool} (hcontrol : m.control = .fetch)
    (hcall : (m.fetch settings cancelled).control.call? ≠ none) :
    m.Dispatching settings (m.fetch settings cancelled) := by
  revert hcall
  unfold fetch
  split
  next scope commands index outer hframes =>
    split
    next => exact fun hcall => absurd rfl hcall
    next =>
      split
      next command hcommand =>
        exact fun _ => ⟨scope, commands, index, outer, command, hcontrol, hframes, hcommand, rfl⟩
      next => exact fun hcall => absurd rfl hcall
  next => exact fun hcall => absurd rfl hcall

/-- Unless its run is over, a machine that waits for a call has just dispatched a command. -/
theorem dispatching_turn (d : Device σ) (device : σ) (cancelled : Bool)
    (hrunning : (m.turn settings d device cancelled).signal.status = .running)
    (hcall : (m.turn settings d device cancelled).machine.control.call? ≠ none) :
    m.Dispatching settings (m.turn settings d device cancelled).machine := by
  cases hbefore : m.control.call? with
  | some call =>
    rcases m.turn_of_call settings hbefore d device cancelled with ⟨_, hback⟩ | ⟨o, hcrashed⟩
    · exact absurd hback.call?_eq_none hcall
    · cases hcrashed.symm.trans hrunning
  | none =>
    unfold turn at hrunning hcall ⊢
    cases hcontrol : m.control with
    | fetch =>
      rw [hcontrol] at hcall
      exact dispatching_fetch settings m hcontrol hcall
    | again =>
      rw [hcontrol] at hcall
      exact absurd (call?_again settings m cancelled) hcall
    | leave flow =>
      rw [hcontrol] at hrunning hcall
      dsimp only at hrunning hcall
      by_cases hfinished : m.isFinished = true
      · rw [if_pos hfinished] at hrunning
        cases hrunning
      · rw [if_neg hfinished] at hcall
        exact absurd (call?_leave m flow hcontrol) hcall
    | pause duration =>
      rw [hcontrol] at hcall
      exact absurd rfl hcall
    | yield =>
      rw [hcontrol] at hcall
      exact absurd rfl hcall
    | perform line g => simp [hcontrol, Control.call?] at hbefore
    | search line lookup => simp [hcontrol, Control.call?] at hbefore
    | tell call => simp [hcontrol, Control.call?] at hbefore

/-- An instruction that is declined leaves the error that it is declined with. -/
theorem Declines.leaves {settings : Settings} {m : Machine} {line : Nat} {instruction : Instruction}
    {e : RunError} (h : m.Declines settings line instruction e) :
    (Command.leaf line instruction).Leaves settings e := by
  cases h with
  | @label instruction label hjumps _ =>
    refine .label ?_
    cases instruction with
    | goto name => exact congrArg some hjumps
    | gotoIf condition name => exact congrArg some hjumps.1
    | _ => exact hjumps.elim
  | function _ => exact .function
  | depth _ _ => exact .depth
  | arithmetic _ _ => exact .arithmetic

/-- What a command leaves at once. -/
theorem errors_dispatch (index : Nat) (command : Command) :
    (m.dispatch settings index command).errors = m.errors ∨
      ∃ e, command.Leaves settings e ∧ (m.dispatch settings index command).errors = m.errors.push e := by
  cases command with
  | leaf line instruction =>
    by_cases hsame : (m.dispatch settings index (.leaf line instruction)).errors = m.errors
    · exact .inl hsame
    · obtain ⟨e, he⟩ := exists_declines hsame
      exact .inr ⟨e, he.leaves, by rw [dispatch_of_declines he]; rfl⟩
  | branch line condition thenBlock elseBlock =>
    obtain ⟨holds, noted, htest⟩ := (m.counting _).test_eq condition
    rw [dispatch_branch settings m htest]
    exact .inl rfl
  | loop line condition body => exact .inl rfl
  | counted line count counter body => exact .inl rfl
  | function line name body => exact .inl rfl

/-- A gesture that succeeds leaves no error. -/
theorem errors_performed_ok (line : Nat) (g : Gesture Millis) :
    (m.performed settings line g (.ok ())).errors = m.errors := by
  unfold performed
  dsimp only
  split <;> rfl

/-- A gesture that fails leaves one, with its keyword and what the device says. -/
theorem errors_performed_error (line : Nat) (g : Gesture Millis) (e : DeviceError) :
    (m.performed settings line g (.error e)).errors = m.errors.push (.device line g.keyword e) := by
  unfold performed
  dsimp only
  split <;> rfl

/-- What a command leaves when its call has come back. -/
theorem errors_turn_of_awaits {command : Command} (hawaits : command.Awaits m.control) (d : Device σ)
    (device : σ) (cancelled : Bool) :
    (m.turn settings d device cancelled).machine.errors = m.errors ∨
      ∃ e, command.Leaves settings e ∧
        (m.turn settings d device cancelled).machine.errors = m.errors.push e := by
  unfold turn
  generalize hcontrol : m.control = control at hawaits
  cases hawaits with
  | @gesture line g =>
    dsimp only
    unfold afterCall
    cases (d.perform device (g.map Number.toMillis)).1.reply with
    | ok _ => exact .inl (errors_performed_ok settings m line (g.map Number.toMillis))
    | error e =>
      refine .inr ⟨.device line g.keyword e, .gesture, ?_⟩
      rw [← Gesture.keyword_map Number.toMillis g]
      exact errors_performed_error settings m line (g.map Number.toMillis) e
    | crash o => exact .inl rfl
  | @search line lookup =>
    dsimp only
    unfold afterCall
    cases (d.search device lookup.path).1.reply with
    | ok answer => exact .inl rfl
    | error e => exact .inr ⟨_, .search, rfl⟩
    | crash o => exact .inl rfl
  | @log line message text =>
    obtain ⟨noted, hnoted⟩ := m.foldl_note_eq (d.tell device (.message text)).1
    exact .inl (by simp only [hnoted]; rfl)
  | @overlay line message text duration =>
    obtain ⟨noted, hnoted⟩ := m.foldl_note_eq (d.tell device (.overlay text duration)).1
    exact .inl (by simp only [hnoted]; rfl)
  | @logVariable line name value =>
    obtain ⟨noted, hnoted⟩ := m.foldl_note_eq (d.tell device (.namedValue name value)).1
    exact .inl (by simp only [hnoted]; rfl)

/-- A turn that carries on, and does not come back from a call, leaves no error. -/
theorem CarriesOn.errors_eq {m m' : Machine} {cancelled : Bool} (h : CarriesOn cancelled m m')
    (hcall : m.control.call? = none) : m'.errors = m.errors := by
  have hrisk : m.control.risk = 0 := by
    cases hcontrol : m.control <;> simp_all [Control.call?, Control.risk]
  have herrors := h.errors
  have hsize : m'.errors.toList.length ≤ m.errors.toList.length := by
    simp only [Array.length_toList]
    omega
  exact Array.toList_inj.mp (h.kept.eq_of_length_le hsize).symm

end Machine

end TouchScript
