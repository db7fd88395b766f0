import TouchScript.Run.Device

namespace TouchScript

/-- What directs a machine: its frames, the labels and the functions it can reach, the number of
calls it is inside of, and what it does next. Variables, counters and the report are left out. -/
structure Skeleton where
  frames : List Frame
  labels : LabelScopes
  functions : Bindings (List Command)
  callDepth : Nat
  control : Control

/-- The label an instruction jumps to, if it jumps. -/
def Instruction.jumpLabel? : Instruction → Option String
  | .goto name | .gotoIf _ name => some name
  | _ => none

/-- What the caller of a function is told when the body of the function hands out a flow. -/
def Flow.outOfCall : Flow → Flow
  | .halt => .halt
  | .next | .jump _ => .next

/-- Goes on pass after pass. -/
def Frame.IsLoop : Frame → Prop
  | .loop _ _ | .counted _ _ _ _ => True
  | _ => False

namespace Control

/-- Waits for the device or for time to pass. -/
def IsWaiting : Control → Prop
  | .perform _ _ | .search _ _ | .tell _ | .pause _ => True
  | _ => False

/-- Hands on a flow that is no jump. -/
def IsPlainLeave (control : Control) : Prop :=
  control = .leave .next ∨ control = .leave .halt

end Control

namespace Skeleton

/-- The current command of the innermost frame, if that is a sequence. -/
def current? (s : Skeleton) : Option Command :=
  match s.frames with
  | .sequence _ commands index :: _ => commands[index]?
  | _ => none

/-- Enters a sequence at its first command. -/
def enter (settings : Settings) (s : Skeleton) (commands : List Command) : Skeleton :=
  { s with
    frames := .sequence s.labels.depth commands 0 :: s.frames
    labels := s.labels.push (Machine.initialLabels settings commands)
    control := .fetch }

/-- The control fits the innermost frame: a command is looked at or carried out inside a sequence,
and another pass is considered inside a loop. -/
def Poised (s : Skeleton) : Prop :=
  match s.control, s.frames with
  | .leave _, _ => True
  | .again, .loop _ _ :: _ | .again, .counted _ _ _ _ :: _ => True
  | .yield, .loop _ _ :: _ => True
  | .again, _ | .yield, _ => False
  | _, .sequence _ _ _ :: _ => True
  | _, _ => False

/-- What a turn can do to a poised machine, whatever the device answers and whenever the run is
cancelled. Facts about frames and labels are shown move by move. -/
inductive Move (settings : Settings) (s : Skeleton) : Skeleton → Prop where
  /-- The run is over, or has broken down inside a call. -/
  | idle (hidle : s.control.IsWaiting ∨ s.frames = []) : Move settings s s
  /-- The current sequence ends, by itself or because the run has to end. -/
  | finish {scope index : Nat} {commands : List Command} {outer : List Frame} {flow : Flow}
      (hcontrol : s.control = .fetch) (hframes : s.frames = .sequence scope commands index :: outer)
      (hflow : flow = .next ∧ commands[index]? = none ∨ flow = .halt) :
      Move settings s { s with frames := outer, labels := s.labels.pop, control := .leave flow }
  /-- An instruction waits for its surroundings, or is done at once without a jump. -/
  | instruct {line : Nat} {instruction : Instruction} {control : Control}
      (hfetch : s.control = .fetch) (hcommand : s.current? = some (.leaf line instruction))
      (hcontrol : control.IsWaiting ∨ control.IsPlainLeave) :
      Move settings s { s with control }
  /-- A label becomes known when it is executed. -/
  | register {scope index line : Nat} {commands : List Command} {outer : List Frame}
      {name : String} (hlazy : settings.labelResolution = .lazy) (hcontrol : s.control = .fetch)
      (hframes : s.frames = .sequence scope commands index :: outer)
      (hcommand : commands[index]? = some (.leaf line (.label name))) :
      Move settings s { s with labels := s.labels.register name index, control := .leave .next }
  /-- A jump finds its label. -/
  | jump {line : Nat} {instruction : Instruction} {label : String} {target : LabelTarget}
      (hcontrol : s.control = .fetch) (hcommand : s.current? = some (.leaf line instruction))
      (hlabel : instruction.jumpLabel? = some label) (htarget : s.labels.resolve label = some target) :
      Move settings s { s with control := .leave (.jump target) }
  /-- A function is called. -/
  | call {line : Nat} {name : String} {body : List Command} (hcontrol : s.control = .fetch)
      (hcommand : s.current? = some (.leaf line (.call name)))
      (hbody : s.functions.get? name = some body)
      (hdepth : s.callDepth < settings.maxCallDepth.val) :
      Move settings s
        (enter settings
          { s with
            frames := .call s.labels.floor :: s.frames
            labels := s.labels.enterCall
            callDepth := s.callDepth + 1 } body)
  /-- A function is defined. -/
  | define {line : Nat} {name : String} {body : List Command} (hcontrol : s.control = .fetch)
      (hcommand : s.current? = some (.function line name body)) :
      Move settings s { s with functions := s.functions.set name body, control := .leave .next }
  /-- A branch enters one of its blocks. -/
  | branch {line : Nat} {condition : String} {thenBlock elseBlock block : List Command}
      (hcontrol : s.control = .fetch)
      (hcommand : s.current? = some (.branch line condition thenBlock elseBlock))
      (hblock : block = thenBlock ∨ block = elseBlock) :
      Move settings s (s.enter settings block)
  /-- A loop begins. -/
  | loop {line : Nat} {condition : String} {body : List Command} (hcontrol : s.control = .fetch)
      (hcommand : s.current? = some (.loop line condition body)) :
      Move settings s { s with frames := .loop condition body :: s.frames, control := .again }
  /-- A counted loop begins. -/
  | counted {line : Nat} {count : PassCount} {counter : Option String} {body : List Command}
      (hcontrol : s.control = .fetch)
      (hcommand : s.current? = some (.counted line count counter body)) :
      Move settings s
        { s with
          frames := .counted count.val.toNat 0 counter body :: s.frames
          control := .again }
  /-- The surroundings have answered. -/
  | resume {control : Control} (hwaiting : s.control.IsWaiting)
      (hcontrol : control.IsWaiting ∨ control = .leave .next) :
      Move settings s { s with control }
  /-- Others have gone first. -/
  | rejoin (hcontrol : s.control = .yield) : Move settings s { s with control := .again }
  /-- A loop begins a pass. -/
  | pass {condition : String} {body : List Command} {outer : List Frame}
      (hcontrol : s.control = .again) (hframes : s.frames = .loop condition body :: outer) :
      Move settings s (s.enter settings body)
  /-- A counted loop begins a pass. -/
  | count {count passes : Nat} {counter : Option String} {body : List Command}
      {outer : List Frame} (hcontrol : s.control = .again)
      (hframes : s.frames = .counted count passes counter body :: outer)
      (hpasses : passes < count) :
      Move settings s
        (enter settings { s with frames := .counted count (passes + 1) counter body :: outer } body)
  /-- A loop ends between two passes. -/
  | exit {frame : Frame} {outer : List Frame} {flow : Flow} (hcontrol : s.control = .again)
      (hframes : s.frames = frame :: outer) (hloop : frame.IsLoop)
      (hflow : flow = .next ∨ flow = .halt) :
      Move settings s { s with frames := outer, control := .leave flow }
  /-- A sequence goes to its next command. -/
  | advance {scope index : Nat} {commands : List Command} {outer : List Frame}
      (hcontrol : s.control = .leave .next)
      (hframes : s.frames = .sequence scope commands index :: outer) :
      Move settings s
        { s with frames := .sequence scope commands (index + 1) :: outer, control := .fetch }
  /-- A sequence follows a jump to its own scope. -/
  | land {target : LabelTarget} {index : Nat} {commands : List Command} {outer : List Frame}
      (hcontrol : s.control = .leave (.jump target))
      (hframes : s.frames = .sequence target.scope commands index :: outer) :
      Move settings s
        { s with frames := .sequence target.scope commands target.index :: outer, control := .fetch }
  /-- A sequence is left by a jump to another scope, or because the run has to end. -/
  | unwind {scope index : Nat} {commands : List Command} {outer : List Frame} {flow : Flow}
      (hcontrol : s.control = .leave flow)
      (hframes : s.frames = .sequence scope commands index :: outer) (hnext : flow ≠ .next)
      (hflow : ∀ target, flow = .jump target → target.scope ≠ scope) :
      Move settings s { s with frames := outer, labels := s.labels.pop, control := .leave flow }
  /-- A pass of a loop is over. -/
  | repass {condition : String} {body : List Command} {outer : List Frame}
      (hcontrol : s.control = .leave .next) (hframes : s.frames = .loop condition body :: outer) :
      Move settings s { s with control := .yield }
  /-- A pass of a counted loop is over. -/
  | recount {count passes : Nat} {counter : Option String} {body : List Command}
      {outer : List Frame} (hcontrol : s.control = .leave .next)
      (hframes : s.frames = .counted count passes counter body :: outer) :
      Move settings s { s with control := .again }
  /-- A loop is left in the middle of a pass. -/
  | interrupt {frame : Frame} {outer : List Frame} {flow : Flow}
      (hcontrol : s.control = .leave flow) (hframes : s.frames = frame :: outer)
      (hloop : frame.IsLoop) (hflow : flow ≠ .next) :
      Move settings s { s with frames := outer, control := .leave flow }
  /-- A function is left. -/
  | leaveCall {floor : Nat} {outer : List Frame} {flow : Flow} (hcontrol : s.control = .leave flow)
      (hframes : s.frames = .call floor :: outer) :
      Move settings s
        { s with
          frames := outer
          labels := s.labels.exitCall floor
          callDepth := s.callDepth - 1
          control := .leave flow.outOfCall }

end Skeleton

namespace Machine

/-- The part of a machine that directs it. -/
def skeleton (m : Machine) : Skeleton :=
  ⟨m.frames, m.context.labels, m.context.functions, m.callDepth, m.control⟩

variable {σ : Type} (settings : Settings) (m : Machine)

@[simp]
theorem skeleton_next : m.next.skeleton = { m.skeleton with control := .leave .next } := rfl

/-- Noting events changes nothing but the events. -/
theorem foldl_note_eq (events : List Event) : ∃ noted, events.foldl note m = { m with events := noted } := by
  induction events generalizing m with
  | nil => exact ⟨m.events, rfl⟩
  | cons e events ih => exact ih (m.note e)

/-- Deciding a condition gives some answer and changes at most the events. -/
theorem test_eq (condition : String) :
    ∃ holds noted, m.test condition = (holds, { m with events := noted }) := by
  unfold test
  split
  · exact ⟨_, m.events, rfl⟩
  · exact ⟨_, _, rfl⟩

/-- A `set` directs nothing: it changes variables and the report. -/
@[simp]
theorem skeleton_assign (line : Nat) (name : String) (source : SetSource) :
    (m.assign settings line name source).skeleton = m.skeleton := by
  unfold assign
  cases source with
  | literal token => rfl
  | binary lhs op rhs =>
    dsimp only
    split
    · split <;> rfl
    · rfl

/-- A jump is a move: its label is found, or it goes to the next command. -/
theorem jump_move {line : Nat} {instruction : Instruction} {label : String}
    (hcontrol : m.control = .fetch)
    (hcommand : m.skeleton.current? = some (.leaf line instruction))
    (hlabel : instruction.jumpLabel? = some label) :
    m.skeleton.Move settings (m.jump line label).skeleton := by
  unfold jump
  split
  next target htarget => exact .jump hcontrol hcommand hlabel htarget
  next => exact .instruct hcontrol hcommand (.inr (.inl rfl))

/-- A call is a move: it enters the body, or goes to the next command. -/
theorem call_move {line : Nat} {name : String} (hcontrol : m.control = .fetch)
    (hcommand : m.skeleton.current? = some (.leaf line (.call name))) :
    m.skeleton.Move settings (m.call settings line name).skeleton := by
  unfold call
  split
  next => exact .instruct hcontrol hcommand (.inr (.inl rfl))
  next body hbody =>
    split
    next => exact .instruct hcontrol hcommand (.inr (.inl rfl))
    next hdepth => exact .call hcontrol hcommand hbody (Int.not_le.mp hdepth)

/-- An instruction at its place in the innermost sequence makes one of the moves of an instruction. -/
theorem execute_move {scope index line : Nat} {commands : List Command} {outer : List Frame}
    {instruction : Instruction} (hcontrol : m.control = .fetch)
    (hframes : m.frames = .sequence scope commands index :: outer)
    (hcommand : commands[index]? = some (.leaf line instruction)) :
    m.skeleton.Move settings (m.execute settings line index instruction).skeleton := by
  have hcurrent : m.skeleton.current? = some (.leaf line instruction) := by
    simp [Skeleton.current?, skeleton, hframes, hcommand]
  have hdone : m.skeleton.Move settings { m.skeleton with control := .leave .next } :=
    .instruct hcontrol hcurrent (.inr (.inl rfl))
  have hwait (control : Control) (h : control.IsWaiting) :
      m.skeleton.Move settings { m.skeleton with control } :=
    .instruct hcontrol hcurrent (.inl h)
  cases instruction with
  | gesture g => exact hwait _ trivial
  | delay ms => exact hwait _ trivial
  | stop => exact .instruct hcontrol hcurrent (.inr (.inr rfl))
  | set name source => simpa [execute] using hdone
  | get name =>
    simp only [execute]
    split <;> exact hdone
  | label name =>
    simp only [execute]
    split
    next => exact hdone
    next hlazy => exact .register hlazy hcontrol hframes hcommand
  | goto label => exact jump_move settings m hcontrol hcurrent rfl
  | gotoIf condition label =>
    obtain ⟨holds, noted, htest⟩ := m.test_eq condition
    simp only [execute, htest]
    split
    · exact jump_move settings { m with events := noted } hcontrol hcurrent rfl
    · exact hdone
  | log message => exact hwait _ trivial
  | overlay message => exact hwait _ trivial
  | logVariable name => exact hwait _ trivial
  | find lookup => exact hwait _ trivial
  | call name => exact call_move settings m hcontrol hcurrent

/-- A machine that has noted that it dispatches a command. -/
def counting (command : Command) : Machine :=
  let noted := m.note (.dispatched command.line command.keyword)
  { noted with steps := noted.steps + 1 }

/-- A single instruction is counted and executed. -/
theorem dispatch_leaf (line index : Nat) (instruction : Instruction) :
    m.dispatch settings index (.leaf line instruction) =
      (m.counting (.leaf line instruction)).execute settings line index instruction := rfl

/-- Of a branch the part is entered that its condition chooses, and the test itself only adds an
event. -/
theorem dispatch_branch {line index : Nat} {condition : String} {thenBlock elseBlock : List Command}
    {holds : Bool} {tested : Machine}
    (htest : (m.counting (.branch line condition thenBlock elseBlock)).test condition = (holds, tested)) :
    m.dispatch settings index (.branch line condition thenBlock elseBlock) =
      tested.enter settings (if holds then thenBlock else elseBlock) := by
  unfold counting at htest
  simp only [dispatch, htest]

/-- Dispatching a command is a move, of another kind for each kind of command. -/
theorem dispatch_move {scope index : Nat} {commands : List Command} {outer : List Frame}
    {command : Command} (hcontrol : m.control = .fetch)
    (hframes : m.frames = .sequence scope commands index :: outer)
    (hcommand : commands[index]? = some command) :
    m.skeleton.Move settings (m.dispatch settings index command).skeleton := by
  have hcurrent : m.skeleton.current? = some command := by
    simp [Skeleton.current?, skeleton, hframes, hcommand]
  cases command with
  | leaf line instruction =>
    rw [dispatch_leaf]
    exact execute_move settings (m.counting _) hcontrol hframes hcommand
  | branch line condition thenBlock elseBlock =>
    obtain ⟨holds, noted, htest⟩ := (m.counting _).test_eq condition
    rw [dispatch_branch settings m htest]
    cases holds with
    | true => exact .branch hcontrol hcurrent (.inl rfl)
    | false => exact .branch hcontrol hcurrent (.inr rfl)
  | loop line condition body => exact .loop hcontrol hcurrent
  | counted line count counter body => exact .counted hcontrol hcurrent
  | function line name body => exact .define hcontrol hcurrent

/-- Looking at the current command is a move. -/
theorem fetch_move (cancelled : Bool) (hcontrol : m.control = .fetch) (hpoised : m.skeleton.Poised) :
    m.skeleton.Move settings (m.fetch settings cancelled).skeleton := by
  unfold fetch
  split
  next scope commands index outer hframes =>
    split
    next => exact .finish hcontrol hframes (.inr rfl)
    next =>
      split
      next command hcommand => exact dispatch_move settings m hcontrol hframes hcommand
      next hcommand => exact .finish hcontrol hframes (.inl ⟨rfl, hcommand⟩)
  next hframes =>
    simp only [Skeleton.Poised, skeleton, hcontrol] at hpoised

/-- Looking whether a loop goes on is a move. -/
theorem again_move (cancelled : Bool) (hcontrol : m.control = .again) (hpoised : m.skeleton.Poised) :
    m.skeleton.Move settings (m.again settings cancelled).skeleton := by
  unfold again
  split
  next condition body outer hframes =>
    split
    next => exact .exit hcontrol hframes trivial (.inr rfl)
    next =>
      obtain ⟨holds, noted, htest⟩ := m.test_eq condition
      simp only [htest]
      cases holds with
      | true => exact .pass hcontrol hframes
      | false => exact .exit hcontrol hframes trivial (.inl rfl)
  next count passes counter body outer hframes =>
    split
    next => exact .exit hcontrol hframes trivial (.inl rfl)
    next hpasses =>
      split
      next => exact .exit hcontrol hframes trivial (.inr rfl)
      next =>
        cases counter <;> exact .count hcontrol hframes (Nat.not_le.mp hpasses)
  next hloop hcounted =>
    simp only [Skeleton.Poised, skeleton, hcontrol] at hpoised

/-- Handing a flow to the innermost frame is a move. -/
theorem leave_move {flow : Flow} (hcontrol : m.control = .leave flow) :
    m.skeleton.Move settings (m.leave flow).skeleton := by
  unfold leave
  split
  next hframes => exact .idle (.inr hframes)
  next scope commands index outer hframes =>
    cases flow with
    | next => exact .advance hcontrol hframes
    | jump target =>
      dsimp only
      split
      next hscope =>
        subst hscope
        exact .land hcontrol hframes
      next hscope => exact .unwind hcontrol hframes nofun (by rintro _ ⟨⟩; exact hscope)
    | halt => exact .unwind hcontrol hframes nofun nofun
  next condition body outer hframes =>
    cases flow with
    | next => exact .repass hcontrol hframes
    | jump target => exact .interrupt hcontrol hframes trivial nofun
    | halt => exact .interrupt hcontrol hframes trivial nofun
  next count passes counter body outer hframes =>
    cases flow with
    | next => exact .recount hcontrol hframes
    | jump target => exact .interrupt hcontrol hframes trivial nofun
    | halt => exact .interrupt hcontrol hframes trivial nofun
  next floor outer hframes =>
    have hmove : m.skeleton.Move settings _ := .leaveCall hcontrol hframes
    cases flow <;> exact hmove

/-- Going on after a gesture is a move: at once, or after the screen has settled. -/
theorem performed_move {line : Nat} {g : Gesture Millis} (hcontrol : m.control = .perform line g)
    (result : Except DeviceError Unit) :
    m.skeleton.Move settings (m.performed settings line g result).skeleton := by
  have hwaiting : m.skeleton.control.IsWaiting := by
    simp [skeleton, hcontrol, Control.IsWaiting]
  unfold performed
  cases result with
  | ok _ =>
    dsimp only
    split
    · exact .resume hwaiting (.inr rfl)
    · exact .resume hwaiting (.inl trivial)
  | error e =>
    dsimp only
    split
    · exact .resume hwaiting (.inr rfl)
    · exact .resume hwaiting (.inl trivial)

/-- Going on after a search is a move, and writes variables only. -/
theorem searched_move {line : Nat} {lookup : ImageLookup} (hcontrol : m.control = .search line lookup)
    (result : Except DeviceError ImageMatch) :
    m.skeleton.Move settings (m.searched line lookup result).skeleton := by
  have hwaiting : m.skeleton.control.IsWaiting := by
    simp [skeleton, hcontrol, Control.IsWaiting]
  have hmove : m.skeleton.Move settings { m.skeleton with control := .leave .next } :=
    .resume hwaiting (.inr rfl)
  unfold searched
  cases lookup.confidenceVar <;> cases result <;> exact hmove

/-- Going on after a call is a move if every way to resume is. A call that breaks down is the move
that stays. -/
theorem afterCall_move {α : Type} (device : σ) (cancelled : Bool) (answer : Answer α)
    {resume : Except DeviceError α → Machine} (hwaiting : m.control.IsWaiting)
    (hresume : ∀ result, m.skeleton.Move settings (resume result).skeleton) :
    m.skeleton.Move settings (m.afterCall device cancelled answer resume).machine.skeleton := by
  unfold afterCall
  cases answer.reply with
  | ok result => exact hresume (.ok result)
  | error e => exact hresume (.error e)
  | crash o => exact .idle (.inl hwaiting)

/-- A run that is over is in the middle of nothing. -/
theorem frames_of_isFinished (hfinished : m.isFinished = true) : m.frames = [] := by
  unfold isFinished at hfinished
  split at hfinished
  next hframes _ => exact hframes
  next => cases hfinished

/-- Every turn of a poised machine is a move, whatever the device answers and whether or not the run
is cancelled. -/
theorem turn_move (d : Device σ) (device : σ) (cancelled : Bool) (hpoised : m.skeleton.Poised) :
    m.skeleton.Move settings (m.turn settings d device cancelled).machine.skeleton := by
  unfold turn
  split
  next hcontrol => exact fetch_move settings m cancelled hcontrol hpoised
  next hcontrol => exact again_move settings m cancelled hcontrol hpoised
  next flow hcontrol =>
    split
    next hfinished => exact .idle (.inr (frames_of_isFinished m hfinished))
    next => exact leave_move settings m hcontrol
  next line g hcontrol =>
    exact afterCall_move settings m _ cancelled _ (by simp [hcontrol, Control.IsWaiting])
      (performed_move settings m hcontrol)
  next line lookup hcontrol =>
    exact afterCall_move settings m _ cancelled _ (by simp [hcontrol, Control.IsWaiting])
      (searched_move settings m hcontrol)
  next call hcontrol =>
    obtain ⟨events, cancels, after⟩ := d.tell device call
    obtain ⟨noted, hnoted⟩ := m.foldl_note_eq events
    simp only [hnoted]
    exact .resume (by simp [skeleton, hcontrol, Control.IsWaiting]) (.inr rfl)
  next duration hcontrol =>
    exact .resume (by simp [skeleton, hcontrol, Control.IsWaiting]) (.inr rfl)
  next hcontrol => exact .rejoin hcontrol

end Machine

/-- A machine that looks at its innermost sequence dispatches the current command, or leaves the
sequence because it has come to its end or has to. -/
theorem Machine.fetch_cases (settings : Settings) {m : Machine} (hfetch : m.control = .fetch)
    (hpoised : m.skeleton.Poised) (cancelled : Bool) :
    ∃ scope commands index outer, m.frames = .sequence scope commands index :: outer ∧
      ((∃ command, commands[index]? = some command ∧
          m.fetch settings cancelled = m.dispatch settings index command) ∨
        (m.isHalted cancelled = true ∨ commands[index]? = none) ∧
          ∃ flow, m.fetch settings cancelled = m.exitSequence outer flow) := by
  unfold fetch
  split
  next scope commands index outer hframes =>
    refine ⟨scope, commands, index, outer, hframes, ?_⟩
    split
    next hhalted => exact .inr ⟨.inl hhalted, .halt, rfl⟩
    next =>
      split
      next command hcommand => exact .inl ⟨command, hcommand, rfl⟩
      next hnone => exact .inr ⟨.inr hnone, .next, rfl⟩
  next => simp only [Skeleton.Poised, skeleton, hfetch] at hpoised

namespace Skeleton

/-- A poised machine that carries out a command stands in a sequence. -/
theorem Poised.frames_eq {s : Skeleton} (hpoised : s.Poised) (hwaiting : s.control.IsWaiting) :
    ∃ scope commands index outer, s.frames = .sequence scope commands index :: outer := by
  unfold Poised at hpoised
  split at hpoised <;> simp_all [Control.IsWaiting]

/-- Inside of a sequence a machine may wait for its surroundings, or hand on a flow that is no jump. -/
theorem poised_of_frames {s : Skeleton} {scope index : Nat} {commands : List Command}
    {outer : List Frame} (hframes : s.frames = .sequence scope commands index :: outer)
    {control : Control} (hcontrol : control.IsWaiting ∨ control.IsPlainLeave) :
    Poised { s with control } := by
  unfold Poised
  rcases hcontrol with h | h | h
  · cases control <;> simp_all [Control.IsWaiting]
  · simp [h]
  · simp [h]

/-- A current command stands in the innermost frame, which is a sequence. -/
theorem frames_of_current {s : Skeleton} {command : Command} (hcurrent : s.current? = some command) :
    ∃ scope commands index outer, s.frames = .sequence scope commands index :: outer ∧
      commands[index]? = some command := by
  unfold current? at hcurrent
  split at hcurrent
  next scope commands index outer hframes => exact ⟨scope, commands, index, outer, hframes, hcurrent⟩
  next => cases hcurrent

/-- A move leaves a poised machine poised, so the machine never looks for a command outside a
sequence or for a pass outside a loop. -/
theorem Poised.move {settings : Settings} {s s' : Skeleton} (hpoised : s.Poised)
    (hmove : s.Move settings s') : s'.Poised := by
  cases hmove with
  | idle _ => exact hpoised
  | instruct _ hcommand hcontrol =>
    obtain ⟨_, _, _, _, hframes, _⟩ := frames_of_current hcommand
    exact poised_of_frames hframes hcontrol
  | resume hwaiting hcontrol =>
    obtain ⟨_, _, _, _, hframes⟩ := hpoised.frames_eq hwaiting
    exact poised_of_frames hframes (hcontrol.imp_right .inl)
  | rejoin hcontrol =>
    unfold Poised at hpoised ⊢
    split at hpoised <;> simp_all
  | repass hcontrol hframes => simp [Poised, hframes]
  | recount hcontrol hframes => simp [Poised, hframes]
  | _ => simp [Poised, enter]

end Skeleton

end TouchScript
