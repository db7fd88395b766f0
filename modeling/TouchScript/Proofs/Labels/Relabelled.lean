import TouchScript.Proofs.Machine.Move
import TouchScript.Proofs.Run.Step

namespace TouchScript

namespace LabelScopes

@[simp]
theorem depth_push (scopes : LabelScopes) (table : LabelTable) :
    (scopes.push table).depth = scopes.depth + 1 := rfl

/-- To leave a sequence takes one table away. -/
@[simp]
theorem depth_pop (scopes : LabelScopes) : scopes.pop.depth = scopes.depth - 1 :=
  List.length_tail

/-- A label that is registered adds no table. -/
@[simp]
theorem depth_register (scopes : LabelScopes) (name : String) (index : Nat) :
    (scopes.register name index).depth = scopes.depth := by
  unfold register depth
  split <;> simp [*]

/-- A label that is registered leaves what can be reached. -/
@[simp]
theorem floor_register (scopes : LabelScopes) (name : String) (index : Nat) :
    (scopes.register name index).floor = scopes.floor := by
  unfold register
  split <;> rfl

end LabelScopes

/-- The settings with another choice of when labels become known. -/
abbrev Settings.resolving (settings : Settings) (mode : LabelResolution) : Settings :=
  { settings with labelResolution := mode }

namespace Machine

/-- The machine `m'` is `m` with other labels in as many tables, of which as many are in reach.
Labels direct a machine in one place only, where a jump looks for its label; so both go the same way
until a jump finds its label in one of them only. -/
def Relabelled (m m' : Machine) : Prop :=
  ∃ labels, m' = m.withLabels labels ∧ labels.depth = m.context.labels.depth ∧
    labels.floor = m.context.labels.floor

/-- The current command is a jump, and its label has not been found. -/
def MissesLabel (m after : Machine) : Prop :=
  ∃ line instruction label, m.skeleton.current? = some (.leaf line instruction) ∧
    instruction.jumpLabel? = some label ∧ after.errors = m.errors.push (.labelNotFound line label)

namespace Relabelled

variable {m m' : Machine} (settings : Settings) (mode : LabelResolution) (h : Relabelled m m')

protected theorem refl (m : Machine) : Relabelled m m :=
  ⟨m.context.labels, rfl, rfl, rfl⟩

include h

/-- Both machines are in the middle of the same. -/
theorem frames : m'.frames = m.frames := by
  obtain ⟨labels, rfl, _, _⟩ := h
  rfl

/-- Both machines do the same next. -/
theorem control : m'.control = m.control := by
  obtain ⟨labels, rfl, _, _⟩ := h
  rfl

/-- Both machines have to end, or neither. -/
theorem isHalted (cancelled : Bool) : m'.isHalted cancelled = m.isHalted cancelled := by
  obtain ⟨labels, rfl, _, _⟩ := h
  rfl

/-- Both machines are over, or neither. -/
theorem isFinished : m'.isFinished = m.isFinished := by
  obtain ⟨labels, rfl, _, _⟩ := h
  rfl

/-- Both machines report the same. -/
theorem report (cancelled : Bool) : m'.report cancelled = m.report cancelled := by
  obtain ⟨labels, rfl, _, _⟩ := h
  rfl

theorem note (e : Event) : Relabelled (m.note e) (m'.note e) := by
  obtain ⟨labels, rfl, hdepth, hfloor⟩ := h
  exact ⟨labels, rfl, hdepth, hfloor⟩

theorem fail (e : RunError) : Relabelled (m.fail e) (m'.fail e) := by
  obtain ⟨labels, rfl, hdepth, hfloor⟩ := h
  exact ⟨labels, rfl, hdepth, hfloor⟩

theorem goOn (control : Control) : Relabelled (m.goOn control) (m'.goOn control) := by
  obtain ⟨labels, rfl, hdepth, hfloor⟩ := h
  exact ⟨labels, rfl, hdepth, hfloor⟩

theorem counting (command : Command) : Relabelled (m.counting command) (m'.counting command) := by
  obtain ⟨labels, rfl, hdepth, hfloor⟩ := h
  exact ⟨labels, rfl, hdepth, hfloor⟩

/-- Both machines may note the same events. -/
theorem noted (events : List Event) :
    Relabelled (events.foldl Machine.note m) (events.foldl Machine.note m') := by
  induction events generalizing m m' with
  | nil => exact h
  | cons e events ih => exact ih (h.note e)

/-- A sequence is entered in both machines, with one more table, whatever is known of its labels. -/
theorem enter (commands : List Command) :
    Relabelled (m.enter settings commands)
      (m'.enter (settings.resolving mode) commands) := by
  obtain ⟨labels, rfl, hdepth, hfloor⟩ := h
  refine ⟨labels.push (initialLabels (settings.resolving mode) commands), ?_, congrArg (· + 1) hdepth, hfloor⟩
  simp only [Machine.enter, withLabels, hdepth]

theorem withEvents (events : Array Event) : Relabelled { m with events } { m' with events } := by
  obtain ⟨labels, rfl, hdepth, hfloor⟩ := h
  exact ⟨labels, rfl, hdepth, hfloor⟩

/-- A condition does not depend on labels. -/
theorem test (condition : String) : ∃ holds events,
    m.test condition = (holds, { m with events }) ∧ m'.test condition = (holds, { m' with events }) := by
  obtain ⟨labels, rfl, _, _⟩ := h
  have hdecide : Condition.decide? (m.withLabels labels).context condition =
      Condition.decide? m.context condition := rfl
  unfold Machine.test
  rw [hdecide]
  split
  · exact ⟨_, _, rfl, rfl⟩
  · exact ⟨_, _, rfl, rfl⟩

/-- A `set` does not look at labels. -/
theorem assign (line : Nat) (name : String) (source : SetSource) :
    Relabelled (m.assign settings line name source)
      (m'.assign (settings.resolving mode) line name source) := by
  obtain ⟨labels, rfl, hdepth, hfloor⟩ := h
  unfold Machine.assign
  cases source with
  | literal token => exact ⟨labels, rfl, hdepth, hfloor⟩
  | binary lhs op rhs =>
    have hleft : (m.withLabels labels).context.resolve lhs = m.context.resolve lhs := rfl
    have hright : (m.withLabels labels).context.resolve rhs = m.context.resolve rhs := rfl
    simp only [hleft, hright]
    split
    · split <;> exact ⟨labels, rfl, hdepth, hfloor⟩
    · exact ⟨labels, rfl, hdepth, hfloor⟩

/-- A call does not look at labels, and puts the same number of tables out of reach. -/
theorem call (line : Nat) (name : String) :
    Relabelled (m.call settings line name)
      (m'.call (settings.resolving mode) line name) := by
  have hfail := h.fail
  have hinside (body : List Command) : Relabelled
      (Machine.enter settings
        { m.withLabels m.context.labels.enterCall with
          frames := .call m.context.labels.floor :: m.frames, callDepth := m.callDepth + 1 } body)
      (Machine.enter (settings.resolving mode)
        { m'.withLabels m'.context.labels.enterCall with
          frames := .call m'.context.labels.floor :: m'.frames, callDepth := m'.callDepth + 1 } body) := by
    refine enter settings mode ?_ body
    obtain ⟨labels, rfl, hdepth, hfloor⟩ := h
    exact ⟨labels.enterCall, by simp [withLabels, hfloor], hdepth, hdepth⟩
  have hget : m'.context.functions.get? name = m.context.functions.get? name := by
    obtain ⟨labels, rfl, _, _⟩ := h
    rfl
  have hcalls : m'.callDepth = m.callDepth := by
    obtain ⟨labels, rfl, _, _⟩ := h
    rfl
  unfold Machine.call
  rw [hget]
  split
  · exact (hfail _).goOn _
  next body _ =>
    rw [hcalls]
    split
    · exact (hfail _).goOn _
    · simpa only [hcalls] using hinside body

/-- A jump that finds its label in both machines at the same place leaves them the same way; one that
does not find it is on record. -/
theorem jump (line : Nat) (label : String)
    (hfound : ∀ target, m.context.labels.resolve label = some target →
      m'.context.labels.resolve label = some target) :
    Relabelled (m.jump line label) (m'.jump line label) ∨
      (m.jump line label).errors = m.errors.push (.labelNotFound line label) := by
  unfold Machine.jump
  cases htarget : m.context.labels.resolve label with
  | some target =>
    rw [hfound target htarget]
    exact .inl ((h.note _).goOn _)
  | none => exact .inr rfl

/-- Where an instruction is carried out at its place in the innermost sequence, the machines go the
same way, or a label has not been found. -/
theorem execute {line index : Nat} {instruction : Instruction}
    (hfound : ∀ label target, instruction.jumpLabel? = some label →
      m.context.labels.resolve label = some target → m'.context.labels.resolve label = some target) :
    Relabelled (m.execute settings line index instruction)
        (m'.execute (settings.resolving mode) line index instruction) ∨
      ∃ label, instruction.jumpLabel? = some label ∧
        (m.execute settings line index instruction).errors = m.errors.push (.labelNotFound line label) := by
  cases instruction with
  | gesture g => exact .inl (h.goOn _)
  | delay ms => exact .inl (h.goOn _)
  | set name source => exact .inl ((h.assign settings mode line name source).goOn _)
  | goto label =>
    exact (h.jump line label fun target => hfound label target rfl).imp_right fun hmissing =>
      ⟨label, rfl, hmissing⟩
  | gotoIf condition label =>
    obtain ⟨holds, events, htest, htest'⟩ := h.test condition
    simp only [Machine.execute, htest, htest']
    cases holds with
    | true =>
      exact ((h.withEvents events).jump line label fun target => hfound label target rfl).imp_right
        fun hmissing => ⟨label, rfl, hmissing⟩
    | false => exact .inl ((h.withEvents events).goOn _)
  | find lookup => exact .inl (h.goOn _)
  | call name => exact .inl (h.call settings mode line name)
  | get name =>
    obtain ⟨labels, rfl, hdepth, hfloor⟩ := h
    have hget : (m.withLabels labels).context.values.get? name = m.context.values.get? name := rfl
    simp only [Machine.execute, hget]
    split <;> exact .inl ⟨labels, rfl, hdepth, hfloor⟩
  | label name =>
    obtain ⟨labels, rfl, hdepth, hfloor⟩ := h
    have hregister (scopes : LabelScopes) :
        (scopes.register name index).depth = scopes.depth ∧
          (scopes.register name index).floor = scopes.floor := by simp
    obtain ⟨hd, hf⟩ := hregister m.context.labels
    obtain ⟨hd', hf'⟩ := hregister labels
    refine .inl ?_
    simp only [Machine.execute]
    -- Either side may register the label; the depth and the floor stay the same.
    cases settings.labelResolution with
    | eager =>
      cases mode with
      | eager => exact ⟨labels, rfl, hdepth, hfloor⟩
      | lazy => exact ⟨labels.register name index, rfl, hd'.trans hdepth, hf'.trans hfloor⟩
    | lazy =>
      cases mode with
      | eager => exact ⟨labels, rfl, hdepth.trans hd.symm, hfloor.trans hf.symm⟩
      | lazy =>
        exact ⟨labels.register name index, rfl, (hd'.trans hdepth).trans hd.symm,
          (hf'.trans hfloor).trans hf.symm⟩
  | stop | log | overlay | logVariable =>
    obtain ⟨labels, rfl, hdepth, hfloor⟩ := h
    exact .inl ⟨labels, rfl, hdepth, hfloor⟩

/-- A command that is no jump goes the same way in both machines. A jump that finds its label in the
first finds it in the second as well, or it fails in the first. -/
theorem dispatch {index : Nat} {command : Command}
    (hfound : ∀ line instruction label target, command = .leaf line instruction →
      instruction.jumpLabel? = some label → m.context.labels.resolve label = some target →
        m'.context.labels.resolve label = some target) :
    Relabelled (m.dispatch settings index command)
        (m'.dispatch (settings.resolving mode) index command) ∨
      ∃ line instruction label, command = .leaf line instruction ∧
        instruction.jumpLabel? = some label ∧
        (m.dispatch settings index command).errors = m.errors.push (.labelNotFound line label) := by
  have hcounting := h.counting command
  cases command with
  | leaf line instruction =>
    rw [dispatch_leaf, dispatch_leaf]
    have hsame (label : String) (target : LabelTarget) :
        instruction.jumpLabel? = some label →
          (m.counting (.leaf line instruction)).context.labels.resolve label = some target →
            (m'.counting (.leaf line instruction)).context.labels.resolve label = some target :=
      hfound line instruction label target rfl
    exact (hcounting.execute settings mode hsame).imp_right fun ⟨label, hlabel, hmissing⟩ =>
      ⟨line, instruction, label, rfl, hlabel, hmissing⟩
  | branch line condition thenBlock elseBlock =>
    obtain ⟨holds, events, htest, htest'⟩ := hcounting.test condition
    rw [dispatch_branch settings m htest, dispatch_branch _ m' htest']
    exact .inl ((hcounting.withEvents events).enter settings mode _)
  | loop | counted | function =>
    obtain ⟨labels, rfl, hdepth, hfloor⟩ := h
    exact .inl ⟨labels, rfl, hdepth, hfloor⟩

/-- A sequence that is left takes one table along in both machines. -/
theorem exitSequence (outer : List Frame) (flow : Flow) :
    Relabelled (m.exitSequence outer flow) (m'.exitSequence outer flow) := by
  obtain ⟨labels, rfl, hdepth, hfloor⟩ := h
  have hpop : labels.pop.depth = m.context.labels.pop.depth := by simp [hdepth]
  exact ⟨labels.pop, rfl, hpop, hfloor⟩

theorem exitLoop (outer : List Frame) (flow : Flow) :
    Relabelled (m.exitLoop outer flow) (m'.exitLoop outer flow) := by
  obtain ⟨labels, rfl, hdepth, hfloor⟩ := h
  exact ⟨labels, rfl, hdepth, hfloor⟩

/-- The machines stay the same for as long as the second finds what the first finds, or a jump of
the first misses its label. -/
theorem fetch (cancelled : Bool)
    (hfound : ∀ line instruction label target, m.skeleton.current? = some (.leaf line instruction) →
      instruction.jumpLabel? = some label → m.context.labels.resolve label = some target →
        m'.context.labels.resolve label = some target) :
    Relabelled (m.fetch settings cancelled) (m'.fetch (settings.resolving mode) cancelled) ∨
      MissesLabel m (m.fetch settings cancelled) := by
  unfold Machine.fetch
  rw [h.frames, h.isHalted]
  split
  next scope commands index outer hframes =>
    split
    · exact .inl (h.exitSequence _ _)
    · split
      next command hcommand =>
        have hcurrent : m.skeleton.current? = some command := by
          simp [Skeleton.current?, skeleton, hframes, hcommand]
        refine (h.dispatch settings mode ?_).imp_right ?_
        · rintro line instruction label target rfl
          exact hfound line instruction label target hcurrent
        · rintro ⟨line, instruction, label, rfl, hlabel, hmissing⟩
          exact ⟨line, instruction, label, hcurrent, hlabel, hmissing⟩
      next => exact .inl (h.exitSequence _ _)
  next => exact .inl (h.goOn _)

/-- A loop does not look at labels when it decides whether it goes on. -/
theorem again (cancelled : Bool) :
    Relabelled (m.again settings cancelled) (m'.again (settings.resolving mode) cancelled) := by
  unfold Machine.again
  rw [h.frames, h.isHalted]
  split
  next condition body outer _ =>
    split
    · exact h.exitLoop _ _
    · obtain ⟨holds, events, htest, htest'⟩ := h.test condition
      simp only [htest, htest']
      split
      · exact (h.withEvents events).enter settings mode body
      · exact (h.withEvents events).exitLoop _ _
  next =>
    split
    · exact h.exitLoop _ _
    · split
      · exact h.exitLoop _ _
      · refine enter settings mode ?_ _
        obtain ⟨labels, rfl, hdepth, hfloor⟩ := h
        split <;> exact ⟨labels, rfl, hdepth, hfloor⟩
  next => exact h.goOn _

/-- A jump on its way goes by scopes, which are numbers of tables and the same in both machines. -/
theorem leave (flow : Flow) : Relabelled (m.leave flow) (m'.leave flow) := by
  have hsequence := h.exitSequence
  have hloop := h.exitLoop
  unfold Machine.leave
  rw [h.frames]
  split
  · exact h
  · cases flow with
    | next =>
      obtain ⟨labels, rfl, hdepth, hfloor⟩ := h
      exact ⟨labels, rfl, hdepth, hfloor⟩
    | jump target =>
      dsimp only
      split
      · obtain ⟨labels, rfl, hdepth, hfloor⟩ := h
        exact ⟨labels, rfl, hdepth, hfloor⟩
      · exact hsequence _ _
    | halt => exact hsequence _ _
  · cases flow with
    | next => exact h.goOn _
    | jump target => exact hloop _ _
    | halt => exact hloop _ _
  · cases flow with
    | next => exact h.goOn _
    | jump target => exact hloop _ _
    | halt => exact hloop _ _
  next floor outer _ =>
    obtain ⟨labels, rfl, hdepth, _⟩ := h
    exact ⟨labels.exitCall floor, rfl, hdepth, rfl⟩

/-- What comes after a gesture does not depend on labels. -/
theorem performed (line : Nat) (g : Gesture Millis) (result : Except DeviceError Unit) :
    Relabelled (m.performed settings line g result)
      (m'.performed (settings.resolving mode) line g result) := by
  obtain ⟨labels, rfl, hdepth, hfloor⟩ := h
  unfold Machine.performed
  cases result with
  | ok _ =>
    dsimp only
    split <;> exact ⟨labels, rfl, hdepth, hfloor⟩
  | error e =>
    dsimp only
    split <;> exact ⟨labels, rfl, hdepth, hfloor⟩

/-- What comes after a search does not depend on labels. -/
theorem searched (line : Nat) (lookup : ImageLookup) (result : Except DeviceError ImageMatch) :
    Relabelled (m.searched line lookup result) (m'.searched line lookup result) := by
  obtain ⟨labels, rfl, hdepth, hfloor⟩ := h
  unfold Machine.searched
  cases lookup.confidenceVar <;> cases result <;> exact ⟨labels, rfl, hdepth, hfloor⟩

end Relabelled

end Machine

/-- Two turns that differ in the labels of the machine they leave. -/
def Turn.Relabelled {σ : Type} (turn turn' : Turn σ) : Prop :=
  turn.machine.Relabelled turn'.machine ∧ turn'.device = turn.device ∧
    turn'.cancelled = turn.cancelled ∧ turn'.signal = turn.signal

namespace Machine

variable {σ : Type} {m m' : Machine} (settings : Settings) (mode : LabelResolution)

/-- After a call both turns go on, or break down, with the same device. -/
theorem Relabelled.afterCall {α : Type} (h : Relabelled m m') (device : σ) (cancelled : Bool)
    (answer : Answer α) {resume resume' : Except DeviceError α → Machine}
    (hresume : ∀ result, Relabelled (resume result) (resume' result)) :
    (m.afterCall device cancelled answer resume).Relabelled
      (m'.afterCall device cancelled answer resume') := by
  unfold Machine.afterCall
  cases answer.reply with
  | ok result => exact ⟨hresume (.ok result), rfl, rfl, rfl⟩
  | error e => exact ⟨hresume (.error e), rfl, rfl, rfl⟩
  | crash o => exact ⟨h, rfl, rfl, rfl⟩

/-- Machines with different labels make the same turn, unless a label has not been found. -/
theorem Relabelled.turn (h : Relabelled m m') (d : Device σ) (device : σ) (cancelled : Bool)
    (hfound : ∀ line instruction label target, m.control = .fetch →
      m.skeleton.current? = some (.leaf line instruction) → instruction.jumpLabel? = some label →
        m.context.labels.resolve label = some target → m'.context.labels.resolve label = some target) :
    (m.turn settings d device cancelled).Relabelled
        (m'.turn (settings.resolving mode) d device cancelled) ∨
      m.control = .fetch ∧ MissesLabel m (m.turn settings d device cancelled).machine := by
  unfold Machine.turn
  rw [h.control]
  cases hcontrol : m.control with
  | fetch =>
    refine (h.fetch settings mode cancelled fun line instruction label target =>
      hfound line instruction label target hcontrol).imp ?_ ?_
    · exact fun hmachine => ⟨hmachine, rfl, rfl, rfl⟩
    · exact fun hmissing => ⟨rfl, hmissing⟩
  | again => exact .inl ⟨h.again settings mode cancelled, rfl, rfl, rfl⟩
  | leave flow =>
    dsimp only
    rw [h.isFinished]
    split
    · exact .inl ⟨h, rfl, rfl, rfl⟩
    · exact .inl ⟨h.leave flow, rfl, rfl, rfl⟩
  | perform line g =>
    exact .inl (h.afterCall _ cancelled _ (h.performed settings mode line g))
  | search line lookup => exact .inl (h.afterCall _ cancelled _ (h.searched line lookup))
  | tell call => exact .inl ⟨(h.noted _).goOn _, rfl, rfl, rfl⟩
  | pause duration => exact .inl ⟨h.goOn _, rfl, rfl, rfl⟩
  | yield => exact .inl ⟨h.goOn _, rfl, rfl, rfl⟩

end Machine

namespace Run

variable {σ : Type} (settings : Settings) (mode : LabelResolution)

/-- Two runs that differ in the labels of their machines. -/
structure Relabelled (run run' : Run σ) : Prop where
  machine : run.machine.Relabelled run'.machine
  device : run'.device = run.device
  cancelled : run'.cancelled = run.cancelled
  elapsed : run'.elapsed = run.elapsed
  status : run'.status = run.status

/-- Both runs report the same. -/
theorem Relabelled.report {run run' : Run σ} (h : Relabelled run run') : run'.report = run.report := by
  rw [Run.report, Run.report, h.cancelled, h.machine.report]

/-- A step keeps the runs the same unless a jump of the first misses its label. -/
theorem Relabelled.step {run run' : Run σ} (h : Relabelled run run') (d : Device σ)
    (hfound : ∀ line instruction label target, run.machine.control = .fetch →
      run.machine.skeleton.current? = some (.leaf line instruction) →
        instruction.jumpLabel? = some label → run.machine.context.labels.resolve label = some target →
          run'.machine.context.labels.resolve label = some target) :
    Relabelled (run.step settings d) (run'.step (settings.resolving mode) d) ∨
      run.machine.control = .fetch ∧ Machine.MissesLabel run.machine (run.step settings d).machine := by
  by_cases hrunning : run.status = .running
  · rw [step_of_running _ _ hrunning, step_of_running _ _ (h.status.trans hrunning), h.cancelled,
      h.device, h.elapsed]
    refine (h.machine.turn settings mode d run.device run.cancelled hfound).imp_left ?_
    rintro ⟨hmachine, hdevice, hcancelled, hsignal⟩
    exact ⟨hmachine, hdevice, hcancelled, by simp only [hsignal], by simp only [hsignal]⟩
  · have hover : run'.status ≠ .running := fun hother => hrunning (h.status.symm.trans hother)
    rw [step_of_over _ _ hrunning, step_of_over _ _ hover]
    exact .inl h

variable (d : Device σ) (commands : List Command) (device : σ) (cancelled : Bool)

/-- The run of a script after some turns, where labels become known in a given way. -/
def resolving (mode : LabelResolution) (k : Nat) : Run σ :=
  (start (settings.resolving mode) commands device cancelled).steps (settings.resolving mode) d k

theorem resolving_succ (mode : LabelResolution) (k : Nat) :
    resolving settings d commands device cancelled mode (k + 1) =
      (resolving settings d commands device cancelled mode k).step (settings.resolving mode) d :=
  steps_succ _ _ _ _

end Run

end TouchScript
