import TouchScript.Proofs.Machine.Course

namespace TouchScript

/-- Ends the run. -/
def Command.isStop : Command → Bool
  | .leaf _ .stop => true
  | _ => false

/-- The number of errors that are still to be expected of the current command. -/
def Control.risk : Control → Nat
  | .perform _ _ | .search _ _ => 1
  | _ => 0

/-- A command that waits for the device may fail, and only once. -/
theorem Control.risk_le_one (control : Control) : control.risk ≤ 1 := by
  cases control <;> simp [risk]

/-- Hands a halt to the frames. -/
def Control.halts : Control → Bool
  | .leave .halt => true
  | _ => false

/-- What does not hand on a halt is not about to. -/
theorem Control.ne_halt {control : Control} (hgoes : control.halts = false) : control ≠ .leave .halt := by
  rintro rfl
  cases hgoes

namespace Machine

/-- What carrying out a command does to the record: it adds an error or none, and only a stop lets the
frames halt. -/
structure Performs (stops : Bool) (m m' : Machine) : Prop where
  steps : m'.steps = m.steps
  stopped : m'.stopped = (m.stopped || stops)
  kept : m.errors.toList <+: m'.errors.toList
  errors : m'.errors.size + m'.control.risk ≤ m.errors.size + 1
  halts : m'.control = .leave .halt ↔ stops = true

namespace Performs

variable {m m' m'' : Machine} {stops : Bool}

/-- A command that has put nothing on record has performed without an error. -/
theorem of_eq (hsteps : m'.steps = m.steps) (hstopped : m'.stopped = m.stopped)
    (herrors : m'.errors = m.errors) (hgoes : m'.control.halts = false) : Performs false m m' := by
  refine ⟨hsteps, by rw [hstopped, Bool.or_false], ?_, ?_, by simpa using Control.ne_halt hgoes⟩
  · simp [herrors]
  · rw [herrors]
    exact Nat.add_le_add_left m'.control.risk_le_one _

/-- A command that has added an error and goes to the next has performed with that error. -/
theorem of_push {e : RunError} (hsteps : m'.steps = m.steps) (hstopped : m'.stopped = m.stopped)
    (herrors : m'.errors = m.errors.push e) (hcontrol : m'.control = .leave .next) :
    Performs false m m' := by
  refine ⟨hsteps, by rw [hstopped, Bool.or_false], ?_, ?_, by simp [hcontrol]⟩
  · rw [herrors, Array.toList_push]
    exact List.prefix_append _ _
  · rw [herrors, Array.size_push, hcontrol]
    exact Nat.le_refl _

/-- A machine may first do something that the report does not show. -/
theorem of_performs (h : Performs stops m' m'') (hsteps : m'.steps = m.steps)
    (hstopped : m'.stopped = m.stopped) (herrors : m'.errors = m.errors) : Performs stops m m'' :=
  ⟨h.steps.trans hsteps, hstopped ▸ h.stopped, herrors ▸ h.kept, herrors ▸ h.errors, h.halts⟩

end Performs

variable {σ : Type} (settings : Settings) (m : Machine)

/-- A `set` adds an error at most, if its value cannot be computed. -/
theorem performs_assign (line : Nat) (name : String) (source : SetSource) :
    Performs false m (m.assign settings line name source).next := by
  unfold assign
  cases source with
  | literal token => exact .of_eq rfl rfl rfl rfl
  | binary lhs op rhs =>
    dsimp only
    split
    · split
      · exact .of_eq rfl rfl rfl rfl
      · exact .of_push rfl rfl rfl rfl
    · exact .of_eq rfl rfl rfl rfl

/-- A jump adds an error exactly if its label is not found. -/
theorem performs_jump (line : Nat) (label : String) : Performs false m (m.jump line label) := by
  unfold jump
  split
  · exact .of_eq rfl rfl rfl rfl
  · exact .of_push rfl rfl rfl rfl

/-- A call adds an error at most, if there is no such function or the calls are too deep. -/
theorem performs_call (line : Nat) (name : String) : Performs false m (m.call settings line name) := by
  unfold call
  split
  · exact .of_push rfl rfl rfl rfl
  · split
    · exact .of_push rfl rfl rfl rfl
    · exact .of_eq rfl rfl rfl rfl

/-- An instruction adds an error at most, and ends the run only if it is a stop. -/
theorem performs_execute (line index : Nat) (instruction : Instruction) :
    Performs (Command.leaf line instruction).isStop m (m.execute settings line index instruction) := by
  cases instruction with
  | stop =>
    have hstopped : true = (m.stopped || true) := (Bool.or_true _).symm
    exact ⟨rfl, hstopped, List.prefix_refl _, Nat.le_succ _, iff_of_true rfl rfl⟩
  | set name source => exact performs_assign settings m line name source
  | get name =>
    simp only [execute]
    split <;> exact .of_eq rfl rfl rfl rfl
  | label name =>
    simp only [execute]
    split <;> exact .of_eq rfl rfl rfl rfl
  | goto label => exact performs_jump m line label
  | gotoIf condition label =>
    obtain ⟨holds, noted, htest⟩ := m.test_eq condition
    simp only [execute, htest]
    split
    · exact (performs_jump { m with events := noted } line label).of_performs rfl rfl rfl
    · exact .of_eq rfl rfl rfl rfl
  | call name => exact performs_call settings m line name
  | gesture | delay | log | overlay | logVariable | find => exact .of_eq rfl rfl rfl rfl

/-- Dispatching a command counts it and carries it out. -/
theorem performs_dispatch (index : Nat) (command : Command) :
    Performs command.isStop (m.counting command) (m.dispatch settings index command) := by
  cases command with
  | leaf line instruction => exact performs_execute settings (m.counting _) line index instruction
  | branch line condition thenBlock elseBlock =>
    obtain ⟨holds, noted, htest⟩ := (m.counting _).test_eq condition
    rw [dispatch_branch settings m htest]
    exact .of_eq rfl rfl rfl rfl
  | loop line condition body => exact .of_eq rfl rfl rfl rfl
  | counted line count counter body => exact .of_eq rfl rfl rfl rfl
  | function line name body => exact .of_eq rfl rfl rfl rfl

/-- What carrying on does: no command is counted, an error is noted only where one is to be expected,
and the frames are told to halt only if the run has to end or they have been told so before. -/
structure CarriesOn (cancelled : Bool) (m m' : Machine) : Prop where
  steps : m'.steps = m.steps
  stopped : m'.stopped = m.stopped
  kept : m.errors.toList <+: m'.errors.toList
  errors : m'.errors.size + m'.control.risk ≤ m.errors.size + m.control.risk
  halts : m'.control = .leave .halt → m.control = .leave .halt ∨ m.isHalted cancelled = true

namespace CarriesOn

variable {m m' : Machine} {cancelled : Bool}

/-- A turn that puts nothing on record carries on. -/
protected theorem refl (m : Machine) : CarriesOn cancelled m m :=
  ⟨rfl, rfl, List.prefix_refl _, Nat.le_refl _, .inl⟩

/-- A machine that makes no call next and has noted no error may halt for a reason. -/
theorem of_reason (hsteps : m'.steps = m.steps) (hstopped : m'.stopped = m.stopped)
    (herrors : m'.errors = m.errors) (hrisk : m'.control.risk = 0)
    (hhalts : m'.control = .leave .halt → m.control = .leave .halt ∨ m.isHalted cancelled = true) :
    CarriesOn cancelled m m' := by
  refine ⟨hsteps, hstopped, ?_, ?_, hhalts⟩
  · simp [herrors]
  · rw [herrors, hrisk]
    exact Nat.le_add_right _ _

/-- A turn that puts nothing on record and expects no error carries on, unless it hands on a halt. -/
theorem of_eq (hsteps : m'.steps = m.steps) (hstopped : m'.stopped = m.stopped)
    (herrors : m'.errors = m.errors) (hrisk : m'.control.risk = 0) (hgoes : m'.control.halts = false) :
    CarriesOn cancelled m m' :=
  of_reason hsteps hstopped herrors hrisk fun h => absurd h (Control.ne_halt hgoes)

/-- A call that can fail has come back with an error. -/
theorem of_push {e : RunError} (hsteps : m'.steps = m.steps) (hstopped : m'.stopped = m.stopped)
    (herrors : m'.errors = m.errors.push e) (hexpected : m.control.risk = 1)
    (hrisk : m'.control.risk = 0) (hgoes : m'.control.halts = false) :
    CarriesOn cancelled m m' := by
  refine ⟨hsteps, hstopped, ?_, ?_, fun h => absurd h (Control.ne_halt hgoes)⟩
  · rw [herrors, Array.toList_push]
    exact List.prefix_append _ _
  · simp [herrors, hrisk, hexpected]

end CarriesOn

/-- A loop that goes on, or ends, puts nothing on record. -/
theorem carriesOn_again {cancelled : Bool} (hcontrol : m.control = .again)
    (hpoised : m.skeleton.Poised) : CarriesOn cancelled m (m.again settings cancelled) := by
  unfold again
  split
  next condition body outer _ =>
    split
    next hhalted => exact .of_reason rfl rfl rfl rfl fun _ => .inr hhalted
    next =>
      obtain ⟨holds, noted, htest⟩ := m.test_eq condition
      simp only [htest]
      split
      · exact .of_eq rfl rfl rfl rfl rfl
      · exact .of_eq rfl rfl rfl rfl rfl
  next =>
    split
    · exact .of_eq rfl rfl rfl rfl rfl
    · split
      next hhalted => exact .of_reason rfl rfl rfl rfl fun _ => .inr hhalted
      next => exact .of_eq rfl rfl rfl rfl rfl
  next => simp only [Skeleton.Poised, skeleton, hcontrol] at hpoised

/-- A flow that is handed to a frame puts nothing on record, and a halt comes from a halt. -/
theorem carriesOn_leave {cancelled : Bool} {flow : Flow} (hcontrol : m.control = .leave flow) :
    CarriesOn cancelled m (m.leave flow) := by
  unfold leave
  split
  · exact .refl m
  · cases flow with
    | next => exact .of_eq rfl rfl rfl rfl rfl
    | jump target =>
      dsimp only
      split <;> exact .of_eq rfl rfl rfl rfl rfl
    | halt => exact .of_reason rfl rfl rfl rfl fun _ => .inl hcontrol
  · cases flow with
    | next => exact .of_eq rfl rfl rfl rfl rfl
    | jump target => exact .of_eq rfl rfl rfl rfl rfl
    | halt => exact .of_reason rfl rfl rfl rfl fun _ => .inl hcontrol
  · cases flow with
    | next => exact .of_eq rfl rfl rfl rfl rfl
    | jump target => exact .of_eq rfl rfl rfl rfl rfl
    | halt => exact .of_reason rfl rfl rfl rfl fun _ => .inl hcontrol
  · cases flow with
    | next => exact .of_eq rfl rfl rfl rfl rfl
    | jump target => exact .of_eq rfl rfl rfl rfl rfl
    | halt => exact .of_reason rfl rfl rfl rfl fun _ => .inl hcontrol

/-- After a gesture the error is noted that was to be expected, if there is one. -/
theorem carriesOn_performed {cancelled : Bool} {line : Nat} {g : Gesture Millis}
    (hcontrol : m.control = .perform line g) (result : Except DeviceError Unit) :
    CarriesOn cancelled m (m.performed settings line g result) := by
  have hexpected : m.control.risk = 1 := by rw [hcontrol]; rfl
  unfold performed
  cases result with
  | ok _ =>
    dsimp only
    split <;> exact .of_eq rfl rfl rfl rfl rfl
  | error e =>
    dsimp only
    split <;> exact .of_push rfl rfl rfl hexpected rfl rfl

/-- After a search the error is noted that was to be expected, if there is one. -/
theorem carriesOn_searched {cancelled : Bool} {line : Nat} {lookup : ImageLookup}
    (hcontrol : m.control = .search line lookup) (result : Except DeviceError ImageMatch) :
    CarriesOn cancelled m (m.searched line lookup result) := by
  have hexpected : m.control.risk = 1 := by rw [hcontrol]; rfl
  unfold searched
  cases result with
  | ok answer => exact .of_eq rfl rfl rfl rfl rfl
  | error e => exact .of_push rfl rfl rfl hexpected rfl rfl

/-- A call that comes back carries on as its reply says, and one that breaks down changes nothing. -/
theorem carriesOn_afterCall {α : Type} (device : σ) {cancelled : Bool} (answer : Answer α)
    {resume : Except DeviceError α → Machine} (hresume : ∀ result, CarriesOn cancelled m (resume result)) :
    CarriesOn cancelled m (m.afterCall device cancelled answer resume).machine := by
  unfold afterCall
  cases answer.reply with
  | ok result => exact hresume (.ok result)
  | error e => exact hresume (.error e)
  | crash o => exact .refl m

/-- A turn dispatches the current command, unless the run has to end, or it carries on. -/
theorem turn_dispatches (d : Device σ) (device : σ) (cancelled : Bool) (hpoised : m.skeleton.Poised) :
    (∃ scope commands index outer command, m.control = .fetch ∧
        m.frames = .sequence scope commands index :: outer ∧ commands[index]? = some command ∧
        m.isHalted cancelled = false ∧
        (m.turn settings d device cancelled).machine = m.dispatch settings index command) ∨
      CarriesOn cancelled m (m.turn settings d device cancelled).machine := by
  unfold turn
  split
  next hcontrol =>
    unfold fetch
    split
    next scope commands index outer hframes =>
      split
      next hhalted => exact .inr (.of_reason rfl rfl rfl rfl fun _ => .inr hhalted)
      next hgoing =>
        split
        next command hcommand =>
          exact .inl ⟨scope, commands, index, outer, command, hcontrol, hframes, hcommand,
            Bool.eq_false_iff.mpr hgoing, rfl⟩
        next => exact .inr (.of_eq rfl rfl rfl rfl rfl)
    next => simp only [Skeleton.Poised, skeleton, hcontrol] at hpoised
  next hcontrol => exact .inr (carriesOn_again settings m hcontrol hpoised)
  next flow hcontrol =>
    split
    · exact .inr (.refl m)
    · exact .inr (carriesOn_leave m hcontrol)
  next line g hcontrol =>
    exact .inr (carriesOn_afterCall m _ _ (carriesOn_performed settings m hcontrol))
  next line lookup hcontrol =>
    exact .inr (carriesOn_afterCall m _ _ (carriesOn_searched m hcontrol))
  next call _ =>
    obtain ⟨events, cancels, after⟩ := d.tell device call
    obtain ⟨noted, hnoted⟩ := m.foldl_note_eq events
    simp only [hnoted]
    exact .inr (.of_eq rfl rfl rfl rfl rfl)
  next => exact .inr (.of_eq rfl rfl rfl rfl rfl)
  next => exact .inr (.of_eq rfl rfl rfl rfl rfl)

end Machine

namespace Course

variable {settings : Settings} {commands : List Command} (c : Course settings commands)

/-- Every turn of a course dispatches a command or carries on. -/
theorem dispatches_or_carriesOn (n : Nat) : (∃ command, c.Dispatches n command) ∨
    ∃ cancelled, (c.state n).CarriesOn cancelled (c.state (n + 1)) := by
  obtain ⟨σ, d, device, cancelled, hturn⟩ := c.turn n
  rcases (c.state n).turn_dispatches settings d device cancelled (c.poised n) with
    ⟨scope, sequence, index, outer, command, hcontrol, hframes, hcommand, _, hdispatch⟩ | hcarries
  · exact .inl ⟨command, hcontrol, scope, sequence, index, outer, hframes, hcommand, hturn.trans hdispatch⟩
  · exact .inr ⟨cancelled, hturn ▸ hcarries⟩

variable {c}

/-- A turn that dispatches a command counts it and then performs it. -/
theorem Dispatches.performs {n : Nat} {command : Command} (h : c.Dispatches n command) :
    Machine.Performs command.isStop ((c.state n).counting command) (c.state (n + 1)) := by
  obtain ⟨_, scope, sequence, index, outer, _, _, hnext⟩ := h
  rw [hnext]
  exact (c.state n).performs_dispatch settings index command

/-- A turn dispatches one command at most. -/
theorem Dispatches.unique {n : Nat} {command other : Command} (h : c.Dispatches n command)
    (hother : c.Dispatches n other) : command = other := by
  obtain ⟨_, _, _, _, _, hframes, hcommand, _⟩ := h
  obtain ⟨_, _, _, _, _, hframes', hcommand', _⟩ := hother
  cases hframes.symm.trans hframes'
  cases hcommand.symm.trans hcommand'
  rfl

/-- A turn that dispatches a command does not carry on. -/
theorem Dispatches.not_carriesOn {n : Nat} {command : Command} (h : c.Dispatches n command)
    {cancelled : Bool} : ¬ (c.state n).CarriesOn cancelled (c.state (n + 1)) := by
  intro hcarries
  have hcounted : (c.state (n + 1)).steps = (c.state n).steps + 1 := h.performs.steps
  have hsame := hcarries.steps
  omega

variable (c)

/-- A turn stops the run exactly if it dispatches a `stop`. -/
theorem stopped_succ_iff (n : Nat) : (c.state (n + 1)).stopped = true ↔
    (c.state n).stopped = true ∨ ∃ line, c.Dispatches n (.leaf line .stop) := by
  rcases c.dispatches_or_carriesOn n with ⟨command, hdispatch⟩ | ⟨cancelled, hcarries⟩
  · have hstopped : (c.state (n + 1)).stopped = ((c.state n).stopped || command.isStop) :=
      hdispatch.performs.stopped
    rw [hstopped, Bool.or_eq_true]
    refine or_congr_right ⟨fun hstop => ?_, ?_⟩
    · unfold Command.isStop at hstop
      split at hstop
      next line => exact ⟨line, hdispatch⟩
      next => cases hstop
    · rintro ⟨line, hstop⟩
      obtain rfl := hdispatch.unique hstop
      rfl
  · rw [hcarries.stopped]
    refine ⟨.inl, ?_⟩
    rintro (hstopped | ⟨line, hdispatch⟩)
    · exact hstopped
    · exact absurd hcarries hdispatch.not_carriesOn

/-- The script has ended its run exactly if a `stop` has been dispatched. -/
theorem stopped_iff (n : Nat) :
    (c.state n).stopped = true ↔ ∃ j, j < n ∧ ∃ line, c.Dispatches j (.leaf line .stop) := by
  induction n with
  | zero =>
    have hstart : (c.state 0).stopped = false := by rw [c.start]; rfl
    simp [hstart]
  | succ n ih => rw [stopped_succ_iff, ih, Nat.exists_lt_succ_right]

/-- A machine that has just been stopped lets its frames halt. -/
theorem halts_of_stopped {n : Nat} (hbefore : ¬ (c.state n).stopped = true)
    (hstopped : (c.state (n + 1)).stopped = true) : (c.state (n + 1)).control = .leave .halt := by
  rcases c.dispatches_or_carriesOn n with ⟨command, hdispatch⟩ | ⟨cancelled, hcarries⟩
  · have hadded : (c.state (n + 1)).stopped = ((c.state n).stopped || command.isStop) :=
      hdispatch.performs.stopped
    rw [hadded, Bool.or_eq_true] at hstopped
    exact hdispatch.performs.halts.mpr (hstopped.resolve_left hbefore)
  · exact absurd (hcarries.stopped.symm.trans hstopped) hbefore

/-- Along a course errors are only added. -/
theorem errors_grow (n more : Nat) :
    (c.state n).errors.toList <+: (c.state (n + more)).errors.toList := by
  induction more with
  | zero => exact List.prefix_refl _
  | succ more ih =>
    rw [← Nat.add_assoc]
    rcases c.dispatches_or_carriesOn (n + more) with ⟨command, hdispatch⟩ | ⟨cancelled, hcarries⟩
    · exact ih.trans hdispatch.performs.kept
    · exact ih.trans hcarries.kept

/-- For every error that is noted or to be expected a command has been counted. -/
theorem errors_le_steps (n more : Nat) :
    (c.state (n + more)).errors.size + (c.state (n + more)).control.risk + (c.state n).steps ≤
      (c.state n).errors.size + (c.state n).control.risk + (c.state (n + more)).steps := by
  induction more with
  | zero => exact Nat.le_refl _
  | succ more ih =>
    rw [← Nat.add_assoc]
    rcases c.dispatches_or_carriesOn (n + more) with ⟨command, hdispatch⟩ | ⟨cancelled, hcarries⟩
    · have hsteps : (c.state (n + more + 1)).steps = (c.state (n + more)).steps + 1 :=
        hdispatch.performs.steps
      have herrors : (c.state (n + more + 1)).errors.size + (c.state (n + more + 1)).control.risk ≤
        (c.state (n + more)).errors.size + 1 := hdispatch.performs.errors
      omega
    · have hsteps := hcarries.steps
      have herrors := hcarries.errors
      omega

variable {c}

/-- As long as nothing is dispatched no command is counted. -/
theorem steps_of_not_dispatches {n more : Nat}
    (hnone : ∀ i, n ≤ i → i < n + more → ∀ command, ¬ c.Dispatches i command) :
    (c.state (n + more)).steps = (c.state n).steps := by
  induction more with
  | zero => rfl
  | succ more ih =>
    have hbefore := ih fun i hle hlt => hnone i hle (Nat.lt_succ_of_lt hlt)
    rcases c.dispatches_or_carriesOn (n + more) with ⟨command, hdispatch⟩ | ⟨cancelled, hcarries⟩
    · exact absurd hdispatch (hnone _ (Nat.le_add_right _ _) (Nat.lt_succ_self _) command)
    · exact hcarries.steps.trans hbefore

/-- Before the next command is dispatched, only this command is counted. -/
theorem Dispatches.steps_eq {n k : Nat} {command : Command} (h : c.Dispatches n command) (hlt : n < k)
    (hnone : ∀ i, n < i → i < k → ∀ other, ¬ c.Dispatches i other) :
    (c.state k).steps = (c.state n).steps + 1 := by
  obtain ⟨more, rfl⟩ := Nat.exists_eq_add_of_le hlt
  have hcounted : (c.state (n + 1)).steps = (c.state n).steps + 1 := h.performs.steps
  rw [← hcounted]
  exact steps_of_not_dispatches fun i hle hless => hnone i hle hless

/-- Before the next command is dispatched, a command has added one error or none. -/
theorem Dispatches.errors_eq {n k : Nat} {command : Command} (h : c.Dispatches n command) (hlt : n < k)
    (hnone : ∀ i, n < i → i < k → ∀ other, ¬ c.Dispatches i other) :
    (c.state k).errors.toList = (c.state n).errors.toList ∨
      ∃ e, (c.state k).errors.toList = (c.state n).errors.toList ++ [e] := by
  have hsteps := h.steps_eq hlt hnone
  obtain ⟨more, rfl⟩ := Nat.exists_eq_add_of_le (Nat.le_of_lt hlt)
  have hrisk : (c.state n).control.risk = 0 := by rw [h.1]; rfl
  have herrors := c.errors_le_steps n more
  obtain ⟨added, hadded⟩ := c.errors_grow n more
  have hsize := congrArg List.length hadded
  simp only [List.length_append, Array.length_toList] at hsize
  match added with
  | [] => exact .inl (by rw [← hadded, List.append_nil])
  | [e] => exact .inr ⟨e, hadded.symm⟩
  | _ :: _ :: _ =>
    simp only [List.length_cons] at hsize
    omega

end Course

end TouchScript
