import TouchScript.Proofs.Machine.Course

namespace TouchScript

namespace LabelScopes

/-- A label is noted in the innermost table only. -/
@[simp]
theorem pop_register (scopes : LabelScopes) (name : String) (index : Nat) :
    (scopes.register name index).pop = scopes.pop := by
  unfold register
  split
  · rfl
  · simp [pop, *]

end LabelScopes

namespace Frame

/-- The labels after a frame has been left. Every frame stands for what its end will undo, so the
frames above a given point say at any moment what the labels at that point were. -/
def restore (labels : LabelScopes) : Frame → LabelScopes
  | .sequence _ _ _ => labels.pop
  | .call floor => labels.exitCall floor
  | .loop _ _ | .counted _ _ _ _ => labels

/-- The number of calls among some frames. -/
def calls : List Frame → Nat
  | [] => 0
  | .call _ :: outer => calls outer + 1
  | .sequence _ _ _ :: outer | .loop _ _ :: outer | .counted _ _ _ _ :: outer => calls outer

/-- To leave a loop does not change the labels. -/
theorem IsLoop.restore_eq {frame : Frame} (hloop : frame.IsLoop) (labels : LabelScopes) :
    restore labels frame = labels := by
  cases frame with
  | sequence _ _ _ => exact hloop.elim
  | loop _ _ => rfl
  | counted _ _ _ _ => rfl
  | call _ => exact hloop.elim

/-- A loop is not a call. -/
theorem IsLoop.calls_eq {frame : Frame} (hloop : frame.IsLoop) (outer : List Frame) :
    calls (frame :: outer) = calls outer := by
  cases frame with
  | sequence _ _ _ => exact hloop.elim
  | loop _ _ => rfl
  | counted _ _ _ _ => rfl
  | call _ => exact hloop.elim

end Frame

namespace Skeleton

/-- Once the frames `inner` have been left, the labels are `labels`, the machine is inside of `depth`
calls, and its frames are `outer`. Where nothing is left above `outer`, the machine waits for its
surroundings or hands a flow to `outer`. -/
structure Balanced (outer : List Frame) (labels : LabelScopes) (depth : Nat) (inner : List Frame)
    (s : Skeleton) : Prop where
  frames : s.frames = inner ++ outer
  labels : inner.foldl Frame.restore s.labels = labels
  callDepth : s.callDepth = depth + Frame.calls inner
  control : inner = [] → s.control.IsWaiting ∨ ∃ flow, s.control = .leave flow

namespace Balanced

variable {outer inner : List Frame} {labels : LabelScopes} {depth : Nat} {s : Skeleton}

/-- While a frame is left above `outer`, it does not matter what the machine does next. -/
theorem cons {frame : Frame} (hframes : s.frames = frame :: inner ++ outer)
    (hlabels : (frame :: inner).foldl Frame.restore s.labels = labels)
    (hdepth : s.callDepth = depth + Frame.calls (frame :: inner)) :
    Balanced outer labels depth (frame :: inner) s :=
  ⟨hframes, hlabels, hdepth, fun hnil => absurd hnil (List.cons_ne_nil _ _)⟩

/-- A machine that is busy above `outer` has its innermost frame there. -/
theorem exists_inner (h : Balanced outer labels depth inner s)
    (hopen : ∀ flow, s.frames = outer → s.control ≠ .leave flow) (hbusy : ¬ s.control.IsWaiting)
    {frame : Frame} {rest : List Frame} (hframes : s.frames = frame :: rest) :
    ∃ more, inner = frame :: more ∧ rest = more ++ outer := by
  cases inner with
  | nil =>
    rcases h.control rfl with hwaiting | ⟨flow, hleave⟩
    · exact absurd hwaiting hbusy
    · exact absurd hleave (hopen flow h.frames)
  | cons first more =>
    obtain ⟨rfl, rfl⟩ := List.cons.inj (hframes.symm.trans h.frames)
    exact ⟨more, rfl, rfl⟩

/-- A machine that looks at a command has something left above `outer`. -/
theorem ne_nil_of_fetch (h : Balanced outer labels depth inner s) (hfetch : s.control = .fetch) :
    inner ≠ [] := by
  intro hnil
  rcases h.control hnil with hwaiting | ⟨flow, hleave⟩
  · simp [hfetch, Control.IsWaiting] at hwaiting
  · cases hfetch.symm.trans hleave

/-- A move above `outer` keeps what leaving the frames will restore. -/
theorem move (h : Balanced outer labels depth inner s)
    (hopen : ∀ flow, s.frames = outer → s.control ≠ .leave flow) {settings : Settings} {s' : Skeleton}
    (hmove : s.Move settings s') : ∃ inner', Balanced outer labels depth inner' s' := by
  have hhead := h.exists_inner hopen
  have hfetched := h.ne_nil_of_fetch
  obtain ⟨hframes, hlabels, hdepth, hcontrol⟩ := h
  -- Where a move takes a frame off, `hhead` says that it is not one of those outside.
  cases hmove with
  | idle _ => exact ⟨inner, hframes, hlabels, hdepth, hcontrol⟩
  | instruct hfetch _ _ | jump hfetch _ _ _ | define hfetch _ =>
    exact ⟨inner, hframes, hlabels, hdepth, fun hnil => absurd hnil (hfetched hfetch)⟩
  | finish hfetch hbefore _ =>
    obtain ⟨more, rfl, rfl⟩ := hhead (by simp [hfetch, Control.IsWaiting]) hbefore
    exact ⟨more, rfl, hlabels, hdepth, fun _ => .inr ⟨_, rfl⟩⟩
  | register _ hfetch hbefore _ =>
    obtain ⟨more, rfl, rfl⟩ := hhead (by simp [hfetch, Control.IsWaiting]) hbefore
    refine ⟨_, .cons hframes ?_ hdepth⟩
    simpa [Frame.restore] using hlabels
  | @call line name body _ _ _ _ =>
    have hinside : .call s.labels.floor :: s.frames = (.call s.labels.floor :: inner) ++ outer :=
      congrArg _ hframes
    have hcount : s.callDepth + 1 = depth + Frame.calls (.call s.labels.floor :: inner) :=
      congrArg (· + 1) hdepth
    exact ⟨.sequence _ body 0 :: .call _ :: inner, .cons (congrArg _ hinside) hlabels hcount⟩
  | branch _ _ _ => exact ⟨.sequence _ _ _ :: inner, .cons (congrArg _ hframes) hlabels hdepth⟩
  | loop _ _ => exact ⟨.loop _ _ :: inner, .cons (congrArg _ hframes) hlabels hdepth⟩
  | counted _ _ => exact ⟨.counted _ _ _ _ :: inner, .cons (congrArg _ hframes) hlabels hdepth⟩
  | resume hwaiting hnext =>
    exact ⟨inner, hframes, hlabels, hdepth, fun _ => hnext.imp_right fun hleave => ⟨_, hleave⟩⟩
  | rejoin hyield =>
    refine ⟨inner, hframes, hlabels, hdepth, fun hnil => ?_⟩
    rcases hcontrol hnil with hwaiting | ⟨flow, hleave⟩
    · simp [hyield, Control.IsWaiting] at hwaiting
    · cases hyield.symm.trans hleave
  | pass hagain hbefore =>
    obtain ⟨more, rfl, rfl⟩ := hhead (by simp [hagain, Control.IsWaiting]) hbefore
    exact ⟨.sequence _ _ _ :: _ :: more, .cons (congrArg _ hframes) hlabels hdepth⟩
  | count hagain hbefore _ =>
    obtain ⟨more, rfl, rfl⟩ := hhead (by simp [hagain, Control.IsWaiting]) hbefore
    exact ⟨.sequence _ _ _ :: .counted _ _ _ _ :: more, .cons rfl hlabels hdepth⟩
  | exit hagain hbefore hloop _ =>
    obtain ⟨more, rfl, rfl⟩ := hhead (by simp [hagain, Control.IsWaiting]) hbefore
    rw [List.foldl_cons, hloop.restore_eq] at hlabels
    rw [hloop.calls_eq] at hdepth
    exact ⟨more, rfl, hlabels, hdepth, fun _ => .inr ⟨_, rfl⟩⟩
  | advance hleave hbefore | land hleave hbefore =>
    obtain ⟨more, rfl, rfl⟩ := hhead (by simp [hleave, Control.IsWaiting]) hbefore
    exact ⟨.sequence _ _ _ :: more, .cons rfl hlabels hdepth⟩
  | unwind hleave hbefore _ _ =>
    obtain ⟨more, rfl, rfl⟩ := hhead (by simp [hleave, Control.IsWaiting]) hbefore
    exact ⟨more, rfl, hlabels, hdepth, fun _ => .inr ⟨_, rfl⟩⟩
  | repass hleave hbefore | recount hleave hbefore =>
    obtain ⟨more, rfl, rfl⟩ := hhead (by simp [hleave, Control.IsWaiting]) hbefore
    exact ⟨_, .cons hframes hlabels hdepth⟩
  | interrupt hleave hbefore hloop _ =>
    obtain ⟨more, rfl, rfl⟩ := hhead (by simp [hleave, Control.IsWaiting]) hbefore
    rw [List.foldl_cons, hloop.restore_eq] at hlabels
    rw [hloop.calls_eq] at hdepth
    exact ⟨more, rfl, hlabels, hdepth, fun _ => .inr ⟨_, rfl⟩⟩
  | leaveCall hleave hbefore =>
    obtain ⟨more, rfl, rfl⟩ := hhead (by simp [hleave, Control.IsWaiting]) hbefore
    have hcount : s.callDepth - 1 = depth + Frame.calls more := by
      rw [hdepth]
      rfl
    exact ⟨more, rfl, hlabels, hcount, fun _ => .inr ⟨_, rfl⟩⟩

/-- Where a flow is handed to `outer`, all is restored. -/
theorem restored (h : Balanced outer labels depth inner s) (hframes : s.frames = outer) :
    s.labels = labels ∧ s.callDepth = depth := by
  obtain rfl : inner = [] := List.append_left_eq_self.mp (h.frames.symm.trans hframes)
  exact ⟨h.labels, h.callDepth⟩

/-- A call that is left has been counted. -/
theorem callDepth_pos (h : Balanced outer labels depth inner s)
    (hopen : ∀ flow, s.frames = outer → s.control ≠ .leave flow) {flow : Flow} {floor : Nat}
    {rest : List Frame} (hleave : s.control = .leave flow) (hframes : s.frames = .call floor :: rest) :
    0 < s.callDepth := by
  have hbusy : ¬ s.control.IsWaiting := by simp [hleave, Control.IsWaiting]
  obtain ⟨more, rfl, _⟩ := h.exists_inner hopen hbusy hframes
  rw [h.callDepth, Frame.calls]
  exact Nat.succ_pos _

end Balanced

end Skeleton

/-- The labels after a command at `index` of its sequence. A label is noted when it is executed,
unless all labels of a sequence are known from the start. -/
def Command.register (settings : Settings) (labels : LabelScopes) (index : Nat) : Command → LabelScopes
  | .leaf _ (.label name) =>
    match settings.labelResolution with
    | .eager => labels
    | .lazy => labels.register name index
  | _ => labels

namespace Machine

variable (settings : Settings) (m : Machine)

/-- A sequence that is entered puts its own frame above the others, and its end will undo its table. -/
theorem balanced_enter (commands : List Command) :
    ∃ inner, (m.enter settings commands).skeleton.Balanced m.frames m.context.labels m.callDepth inner :=
  ⟨[.sequence _ commands 0], .cons rfl rfl rfl⟩

/-- A command that is done, or that only waits, has put nothing above its sequence. -/
theorem balanced_goOn {control : Control} (hcontrol : control.IsWaiting ∨ ∃ flow, control = .leave flow) :
    ∃ inner, Skeleton.Balanced m.frames m.context.labels m.callDepth inner { m.skeleton with control } :=
  ⟨[], rfl, rfl, rfl, fun _ => hcontrol⟩

/-- A jump leaves frames and labels as they are: it is on its way, or it has failed. -/
theorem balanced_jump (line : Nat) (label : String) :
    ∃ inner, (m.jump line label).skeleton.Balanced m.frames m.context.labels m.callDepth inner := by
  unfold jump
  split
  · exact m.balanced_goOn (.inr ⟨_, rfl⟩)
  · exact m.balanced_goOn (.inr ⟨_, rfl⟩)

/-- A call that is made puts two frames above the others, its own and that of the body. A call that
is not made puts none. -/
theorem balanced_call (line : Nat) (name : String) :
    ∃ inner, (m.call settings line name).skeleton.Balanced m.frames m.context.labels m.callDepth inner := by
  unfold call
  split
  · exact m.balanced_goOn (.inr ⟨_, rfl⟩)
  next body _ =>
    split
    · exact m.balanced_goOn (.inr ⟨_, rfl⟩)
    · exact ⟨[.sequence _ body 0, .call _], .cons rfl rfl rfl⟩

/-- An instruction changes labels only by registering one, and adds frames only by a call. -/
theorem balanced_execute (line index : Nat) (instruction : Instruction) :
    ∃ inner, (m.execute settings line index instruction).skeleton.Balanced m.frames
      ((Command.leaf line instruction).register settings m.context.labels index) m.callDepth inner := by
  have hdone : ∃ inner, Skeleton.Balanced m.frames m.context.labels m.callDepth inner
      { m.skeleton with control := .leave .next } := m.balanced_goOn (.inr ⟨_, rfl⟩)
  have hwait {control : Control} (hwaiting : control.IsWaiting) :
      ∃ inner, Skeleton.Balanced m.frames m.context.labels m.callDepth inner
        { m.skeleton with control } := m.balanced_goOn (.inl hwaiting)
  cases instruction with
  | gesture | delay | log | overlay | logVariable | find => exact hwait trivial
  | stop => exact m.balanced_goOn (.inr ⟨_, rfl⟩)
  | set name source =>
    rw [execute, skeleton_next, skeleton_assign]
    exact hdone
  | get name =>
    simp only [execute]
    split <;> exact hdone
  | label name =>
    simp only [execute, Command.register]
    cases settings.labelResolution with
    | eager => exact hdone
    | lazy => exact ⟨[], rfl, rfl, rfl, fun _ => .inr ⟨_, rfl⟩⟩
  | goto label => exact m.balanced_jump line label
  | gotoIf condition label =>
    obtain ⟨holds, noted, htest⟩ := m.test_eq condition
    simp only [execute, htest]
    split
    · exact balanced_jump { m with events := noted } line label
    · exact hdone
  | call name => exact m.balanced_call settings line name

/-- So does a command; a block adds the frame of the sequence or loop that it stands for. -/
theorem balanced_dispatch (index : Nat) (command : Command) :
    ∃ inner, (m.dispatch settings index command).skeleton.Balanced m.frames
      (command.register settings m.context.labels index) m.callDepth inner := by
  cases command with
  | leaf line instruction =>
    rw [dispatch_leaf]
    exact (m.counting _).balanced_execute settings line index instruction
  | branch line condition thenBlock elseBlock =>
    obtain ⟨holds, noted, htest⟩ := (m.counting _).test_eq condition
    rw [dispatch_branch settings m htest]
    exact balanced_enter settings { m.counting _ with events := noted } _
  | loop line condition body => exact ⟨[.loop condition body], .cons rfl rfl rfl⟩
  | counted line count counter body =>
    exact ⟨[.counted count.val.toNat 0 counter body], .cons rfl rfl rfl⟩
  | function line name body => exact ⟨[], rfl, rfl, rfl, fun _ => .inr ⟨_, rfl⟩⟩

/-- All that went on above the frames `outer` is over, and they are handed a flow. -/
def HandsTo (outer : List Frame) (flow : Flow) : Prop :=
  m.frames = outer ∧ m.control = .leave flow

/-- The states that a machine goes through from `first` on until it hands a flow to `outer`. The
devices may change from turn to turn, and the run may be cancelled at any moment. -/
inductive Within (outer : List Frame) (first : Machine) : Machine → Prop where
  | first : Within outer first first
  | turn {σ : Type} {m : Machine} (h : Within outer first m) (hopen : ∀ flow, ¬ m.HandsTo outer flow)
      (d : Device σ) (device : σ) (cancelled : Bool) :
      Within outer first (m.turn settings d device cancelled).machine

/-- What comes above the frames `outer` leaves no trace: once these are handed a flow, the labels are
`labels` and the machine is inside of `depth` calls. Until then every call that is left has been
counted. -/
structure Restores (outer : List Frame) (labels : LabelScopes) (depth : Nat) : Prop where
  around : outer <:+ m.frames
  restored : ∀ flow, m.HandsTo outer flow → m.context.labels = labels ∧ m.callDepth = depth
  counted : ∀ flow floor rest, (∀ other, ¬ m.HandsTo outer other) → m.control = .leave flow →
    m.frames = .call floor :: rest → 0 < m.callDepth

variable {settings m} {first : Machine} {outer : List Frame} {labels : LabelScopes} {depth : Nat}

/-- All that goes on above the frames `outer` stays balanced, turn after turn, whatever the devices
do. -/
theorem Within.balanced (h : Within settings outer first m) (hpoised : first.skeleton.Poised)
    (hfirst : ∃ inner, first.skeleton.Balanced outer labels depth inner) :
    m.skeleton.Poised ∧ ∃ inner, m.skeleton.Balanced outer labels depth inner := by
  induction h with
  | first => exact ⟨hpoised, hfirst⟩
  | turn _ hopen d device cancelled ih =>
    obtain ⟨hpoised, inner, hbalanced⟩ := ih
    have hmove := turn_move settings _ d device cancelled hpoised
    exact ⟨hpoised.move hmove,
      hbalanced.move (fun flow hframes hleave => hopen flow ⟨hframes, hleave⟩) hmove⟩

/-- A stretch restores whatever its first state would restore. -/
theorem Within.restores (h : Within settings outer first m) (hpoised : first.skeleton.Poised)
    (hfirst : ∃ inner, first.skeleton.Balanced outer labels depth inner) :
    m.Restores outer labels depth := by
  obtain ⟨_, inner, hbalanced⟩ := h.balanced hpoised hfirst
  refine ⟨⟨inner, hbalanced.frames.symm⟩, fun flow hhands => hbalanced.restored hhands.1, ?_⟩
  intro flow floor rest hopen hleave hframes
  exact hbalanced.callDepth_pos (fun other houter hother => hopen other ⟨houter, hother⟩) hleave hframes

end Machine

/-- A course is a stretch of its own: nothing is around it. -/
theorem Course.within {settings : Settings} {commands : List Command} (c : Course settings commands)
    (n : Nat) : Machine.Within settings [] (Machine.start settings commands) (c.state n) := by
  induction n with
  | zero =>
    rw [c.start]
    exact .first
  | succ n ih =>
    by_cases hover : (c.state n).isFinished = true
    · obtain ⟨hframes, flow, hleave⟩ := (Machine.isFinished_eq_true_iff _).mp hover
      obtain ⟨σ, d, device, cancelled, hturn⟩ := c.turn n
      have hsame : c.state (n + 1) = c.state n := by
        rw [hturn, Machine.turn, hleave]
        simp [hover]
      rw [hsame]
      exact ih
    · obtain ⟨σ, d, device, cancelled, hturn⟩ := c.turn n
      rw [hturn]
      refine ih.turn (fun flow hhands => hover ?_) d device cancelled
      exact (Machine.isFinished_eq_true_iff _).mpr ⟨hhands.1, flow, hhands.2⟩

/-- A sequence that has been walked and a command that has been carried out, in whatever way they
ended, leave the labels, the floor and the number of calls as they were, except that a label may have
been noted in the innermost table. A run that is over has no labels, no floor and no calls. -/
theorem Machine.labels_restored (settings : Settings) (m : Machine) :
    (∀ commands m', Within settings m.frames (m.enter settings commands) m' →
      m'.Restores m.frames m.context.labels m.callDepth) ∧
    (∀ scope commands index outer command m', m.control = .fetch →
      m.frames = .sequence scope commands index :: outer → commands[index]? = some command →
      Within settings m.frames (m.dispatch settings index command) m' →
      m'.Restores m.frames (command.register settings m.context.labels index) m.callDepth) ∧
    (∀ {σ : Type} (d : Device σ) commands device cancelled k,
      let run := (Run.start settings commands device cancelled).steps settings d k
      run.machine.Restores [] LabelScopes.empty 0 ∧
      (run.status = .finished →
        run.machine.context.labels = LabelScopes.empty ∧ run.machine.callDepth = 0)) := by
  refine ⟨?_, ?_, ?_⟩
  · intro commands m' hwithin
    exact hwithin.restores trivial (m.balanced_enter settings commands)
  · intro scope commands index outer command m' hcontrol hframes hcommand hwithin
    have hpoised : m.skeleton.Poised := by simp [Skeleton.Poised, skeleton, hcontrol, hframes]
    have hmove := dispatch_move settings m hcontrol hframes hcommand
    exact hwithin.restores (hpoised.move hmove) (m.balanced_dispatch settings index command)
  · intro σ d commands device cancelled k run
    have hwithin := (Run.course settings d commands device cancelled).within k
    have hrestores : run.machine.Restores [] LabelScopes.empty 0 := hwithin.restores trivial
      (balanced_enter settings ⟨Context.empty, [], .fetch, 0, 0, false, #[], #[]⟩ commands)
    refine ⟨hrestores, fun hfinished => ?_⟩
    have hover := Run.isFinished_of_finished settings d commands device cancelled k hfinished
    obtain ⟨hframes, flow, hleave⟩ := (isFinished_eq_true_iff _).mp hover
    exact hrestores.restored flow ⟨hframes, hleave⟩

end TouchScript
