import TouchScript.Proofs.Run.Structured

namespace TouchScript

variable {σ : Type}

/-- A run in a given world. The labels in reach and the events are not part of the world. -/
def World.run (w : World σ) (stopped : Bool) (labels : LabelScopes) (events : Array Event)
    (frames : List Frame) (control : Control) (callDepth : Nat) : Run (σ × List DeviceCall) where
  machine :=
    { context := ⟨w.values, w.counters, w.functions, labels⟩
      frames, control, callDepth, stopped, events
      steps := w.steps
      errors := w.errors }
  device := (w.device, w.calls)
  cancelled := false
  elapsed := w.elapsed
  status := .running

/-- A `set` defines no function. -/
theorem World.functions_assign (w : World σ) (settings : Settings) (line : Nat) (name : String)
    (source : SetSource) : (w.assign settings line name source).functions = w.functions := by
  unfold World.assign
  cases source with
  | literal token => rfl
  | binary lhs op rhs =>
    dsimp only
    split
    · split <;> rfl
    · rfl

/-- Before each pass, a loop decides its condition. -/
theorem Machine.again_loop (settings : Settings) (m : Machine) {condition : String} {body : List Command}
    {outer : List Frame} {holds : Bool} {tested : Machine}
    (hframes : m.frames = .loop condition body :: outer) (hgoing : m.stopped = false)
    (htest : m.test condition = (holds, tested)) :
    m.again settings false = if holds then tested.enter settings body else tested.exitLoop outer .next := by
  simp [again, hframes, isHalted, hgoing, htest]

/-- A call comes back to the machine and to the world in the same way. -/
theorem World.answered_cases {α : Type} (w : World σ) (answer : Answer α)
    (written : Except DeviceError α → World σ → World σ) :
    (∃ result,
      w.answered answer written = (.done, written result (answer.sleep.elim w w.sleep)) ∧
      ∀ {τ : Type} (m : Machine) (device : τ) cancelled resume,
        m.afterCall device cancelled answer resume =
          ⟨resume result, device, cancelled || answer.cancels, answer.sleep.elim .proceed .sleep⟩) ∨
      ∃ o, w.answered answer written = (.crashed o, w) ∧
        ∀ {τ : Type} (m : Machine) (device : τ) cancelled resume,
          m.afterCall device cancelled answer resume =
            ⟨m, device, cancelled || answer.cancels, .crashed o⟩ := by
  unfold World.answered Machine.afterCall
  cases answer.reply with
  | ok result => exact .inl ⟨.ok result, rfl, fun _ _ _ _ => rfl⟩
  | error e => exact .inl ⟨.error e, rfl, fun _ _ _ _ => rfl⟩
  | crash o => exact .inr ⟨o, rfl, fun _ _ _ _ => rfl⟩

namespace Run

/-- A turn that the machine makes on its own changes nothing but the machine. -/
theorem step_own {τ : Type} (settings : Settings) (d : Device τ) (run : Run τ) (m : Machine)
    (hrunning : run.status = .running)
    (hturn : run.machine.turn settings d run.device run.cancelled =
      ⟨m, run.device, run.cancelled, .proceed⟩) :
    run.step settings d = { run with machine := m } := by
  rw [step_of_running settings d hrunning, hturn]
  simp [Signal.slept, Signal.status, hrunning]

/-- A run that has been stopped leaves frame after frame. -/
theorem step_halt (settings : Settings) (d : Device σ) (w : World σ) (labels : LabelScopes)
    (events : Array Event) (frame : Frame) (outer : List Frame) (callDepth : Nat) :
    ∃ labels' callDepth',
      (w.run true labels events (frame :: outer) (.leave .halt) callDepth).step settings (d.logged none) =
        w.run true labels' events outer (.leave .halt) callDepth' := by
  cases frame <;> exact ⟨_, _, rfl⟩

/-- The run goes on with the control `control` in the frames `frames`, inside of `callDepth` calls, in
the world `w`, where no function jumps. -/
structure At (run : Run (σ × List DeviceCall)) (frames : List Frame) (callDepth : Nat)
    (control : Control) (w : World σ) : Prop where
  state : ∃ labels events, run = w.run false labels events frames control callDepth
  functions : ∀ name body, w.functions.get? name = some body → JumpFree body

/-- After `k` turns the run has come to what an evaluation comes to. When everything has been done or
the script has stopped itself, it leaves the innermost sequence for the frames `outer`; when the
evaluation is cut, the run has taken at least `bound` turns and goes on. -/
def Meets (bound : Nat) (outer : List Frame) (callDepth k : Nat) (run : Run (σ × List DeviceCall)) :
    Evaluation σ → Prop
  | (.done, w) => At run outer callDepth (.leave .next) w
  | (.stopped, w) => ∃ labels events depth, run = w.run true labels events outer (.leave .halt) depth
  | (.crashed o, w) => ∃ labels events frames control depth,
    run = { w.run false labels events frames control depth with status := .crashed o }
  | (.cut, w) => bound ≤ k ∧
    ∃ labels events frames control depth, run = w.run false labels events frames control depth

variable (settings : Settings) (d : Device σ)

/-- The run comes to what an evaluation comes to, whatever frames are around it. So runs are
composed as evaluations are. -/
def Follows (bound : Nat) (outer : List Frame) (callDepth : Nat) (result : Evaluation σ)
    (run : Run (σ × List DeviceCall)) : Prop :=
  ∃ k, Meets bound outer callDepth k (run.steps settings (d.logged none) k) result

variable {settings d}
variable {bound callDepth : Nat} {frame : Frame} {outer frames : List Frame} {control : Control}
  {run : Run (σ × List DeviceCall)} {result : Evaluation σ} {w : World σ}

/-- What has been met with a bound is met with one that is not greater, or after more turns. -/
theorem Meets.mono {k : Nat} (h : Meets bound outer callDepth k run result) {bound' k' : Nat}
    (hbound : bound ≤ k → bound' ≤ k') : Meets bound' outer callDepth k' run result := by
  obtain ⟨ending, w⟩ := result
  cases ending with
  | cut => exact ⟨hbound h.1, h.2⟩
  | _ => exact h

namespace Follows

/-- A run that hands on after a sequence in a world follows an evaluation to that world. -/
theorem of_done (h : At run outer callDepth (.leave .next) w) :
    Follows settings d bound outer callDepth (.done, w) run :=
  ⟨0, h⟩

/-- One turn is enough. -/
theorem of_last (h : At (run.step settings (d.logged none)) outer callDepth (.leave .next) w) :
    Follows settings d bound outer callDepth (.done, w) run :=
  ⟨1, h⟩

/-- A turn before. -/
theorem of_step (h : Follows settings d bound outer callDepth result (run.step settings (d.logged none))) :
    Follows settings d (bound + 1) outer callDepth result run := by
  obtain ⟨k, hmeets⟩ := h
  exact ⟨k + 1, hmeets.mono Nat.succ_le_succ⟩

/-- A run that follows with a bound follows with every smaller one. -/
theorem mono (h : Follows settings d bound outer callDepth result run) {bound' : Nat}
    (hle : bound' ≤ bound) : Follows settings d bound' outer callDepth result run := by
  obtain ⟨k, hmeets⟩ := h
  exact ⟨k, hmeets.mono (Nat.le_trans hle)⟩

/-- What a run comes to inside a frame, and from there. -/
theorem andThen {innerDepth : Nat} (h : Follows settings d bound (frame :: outer) innerDepth result run)
    {next : World σ → Evaluation σ}
    (hnext : ∀ run w, At run (frame :: outer) innerDepth (.leave .next) w →
      Follows settings d bound outer callDepth (next w) run) :
    Follows settings d bound outer callDepth (result.andThen next) run := by
  obtain ⟨k, hmeets⟩ := h
  obtain ⟨ending, w⟩ := result
  cases ending with
  | done =>
    obtain ⟨more, hmore⟩ := hnext _ w hmeets
    rw [← steps_add] at hmore
    exact ⟨k + more, hmore.mono fun hbound => Nat.le_add_left_of_le hbound⟩
  | stopped =>
    obtain ⟨labels, events, depth, hrun⟩ := hmeets
    obtain ⟨labels', depth', hstep⟩ := step_halt settings d w labels events frame outer depth
    refine ⟨k + 1, labels', events, depth', ?_⟩
    rw [steps_succ, hrun, hstep]
  | crashed o => exact ⟨k, hmeets⟩
  | cut => exact ⟨k, hmeets⟩

end Follows

/-- A turn, whatever the labels and the events are. -/
theorem At.step {control' : Control} {frames' : List Frame} {callDepth' : Nat} {w' : World σ}
    (h : At run frames callDepth control w)
    (hstep : ∀ labels events, ∃ labels' events',
      (w.run false labels events frames control callDepth).step settings (d.logged none) =
        w'.run false labels' events' frames' control' callDepth')
    (hfunctions : ∀ name body, w'.functions.get? name = some body → JumpFree body) :
    At (run.step settings (d.logged none)) frames' callDepth' control' w' := by
  obtain ⟨labels, events, rfl⟩ := h.state
  exact ⟨hstep labels events, hfunctions⟩

namespace At

variable {scope index : Nat} {commands : List Command} {command : Command}

/-- The walk of a sequence is over behind its last command. -/
theorem finish (h : At run (.sequence scope commands index :: outer) callDepth .fetch w)
    (hover : commands[index]? = none) :
    At (run.step settings (d.logged none)) outer callDepth (.leave .next) w := by
  refine h.step (fun labels events => ⟨labels.pop, events, ?_⟩) h.functions
  simp [Run.step, World.run, Machine.turn, Machine.fetch, Machine.isHalted, hover, Machine.exitSequence,
    Machine.withLabels]

/-- Behind a command the next one follows. -/
theorem advance (h : At run (.sequence scope commands index :: outer) callDepth (.leave .next) w) :
    At (run.step settings (d.logged none)) (.sequence scope commands (index + 1) :: outer) callDepth
      .fetch w :=
  h.step (fun _ _ => ⟨_, _, rfl⟩) h.functions

/-- A turn that looks at a command dispatches it, as nobody has cancelled the run and it has not
stopped itself. -/
theorem step_fetch (settings : Settings) (d : Device σ) (w : World σ) (labels : LabelScopes)
    (events : Array Event) (scope : Nat) (outer : List Frame) (callDepth : Nat)
    (hcommand : commands[index]? = some command) :
    let run := w.run false labels events (.sequence scope commands index :: outer) .fetch callDepth
    run.step settings (d.logged none) =
      { run with machine := run.machine.dispatch settings index command } := by
  simp [Run.step, World.run, Machine.turn, Machine.fetch, Machine.isHalted, hcommand]

/-- A command is dispatched. -/
theorem dispatch {control' : Control} {frames' : List Frame} {callDepth' : Nat} {w' : World σ}
    (h : At run (.sequence scope commands index :: outer) callDepth .fetch w)
    (hcommand : commands[index]? = some command)
    (hdispatch : ∀ labels events, ∃ labels' events',
      let run := w.run false labels events (.sequence scope commands index :: outer) .fetch callDepth
      { run with machine := run.machine.dispatch settings index command } =
        w'.run false labels' events' frames' control' callDepth')
    (hfunctions : ∀ name body, w'.functions.get? name = some body → JumpFree body) :
    At (run.step settings (d.logged none)) frames' callDepth' control' w' := by
  refine h.step (fun labels events => ?_) hfunctions
  obtain ⟨labels', events', hdispatch⟩ := hdispatch labels events
  have hfetch := step_fetch settings d w labels events scope outer callDepth hcommand
  exact ⟨labels', events', hfetch.trans hdispatch⟩

/-- A pause lets time pass. -/
theorem pause {duration : Millis} (h : At run frames callDepth (.pause duration) w) :
    At (run.step settings (d.logged none)) frames callDepth (.leave .next) (w.sleep duration.toNat) :=
  h.step (fun _ _ => ⟨_, _, rfl⟩) h.functions

/-- A line is logged. -/
theorem tell {call : LogCall Millis} (h : At run frames callDepth (.tell call) w) :
    Follows settings d bound frames callDepth (w.tell d call) run := by
  refine .of_last (h.step (fun labels events => ?_) h.functions)
  obtain ⟨noted, hnoted⟩ := Machine.foldl_note_eq
    (w.run false labels events frames (.tell call) callDepth).machine (d.tell w.device call).1
  refine ⟨labels, noted, ?_⟩
  rw [step_of_running _ _ rfl]
  exact congrArg (fun m : Machine => (⟨m.next, _, false, w.elapsed, .running⟩ : Run _)) hnoted

/-- A call comes back, after which the run goes on; or it breaks down. -/
theorem answered {α : Type} {answer : Answer α} {device : σ} {call : DeviceCall}
    {written : Except DeviceError α → World σ → World σ} {next : World σ → Evaluation σ}
    (h : At run frames callDepth control w) (control' : Control)
    (resume : Machine → Except DeviceError α → Machine)
    (hturn : ∀ labels events,
      let run := w.run false labels events frames control callDepth
      run.machine.turn settings (d.logged none) run.device run.cancelled =
        run.machine.afterCall (device, w.calls ++ [call]) false { answer with cancels := false }
          (resume run.machine))
    (hresume : ∀ result w labels events, ∃ labels' events',
      let run : Run (σ × List DeviceCall) := w.run false labels events frames control callDepth
      { run with machine := resume run.machine result } =
        (written result w).run false labels' events' frames control' callDepth)
    (hfunctions : ∀ result w, (written result w).functions = w.functions)
    (hnext : ∀ run w, At run frames callDepth control' w →
      Follows settings d bound frames callDepth (next w) run) :
    Follows settings d (bound + 1) frames callDepth
      (((w.afterCall call device).answered answer written).andThen next) run := by
  obtain ⟨labels, events, rfl⟩ := h.state
  have hrunning : (w.run false labels events frames control callDepth).status = .running := rfl
  have hstep := step_of_running settings (d.logged none) hrunning
  rw [hturn] at hstep
  rcases (w.afterCall call device).answered_cases { answer with cancels := false } written with
    ⟨result, hresult, hback⟩ | ⟨o, hresult, hback⟩
  · rw [hback] at hstep
    change (w.afterCall call device).answered answer written = _ at hresult
    rw [hresult, Evaluation.andThen_done]
    refine .of_step (hnext _ _ ?_)
    rw [hstep]
    refine ⟨?_, by
      rw [hfunctions]
      cases answer.sleep <;> exact h.functions⟩
    cases answer.sleep with
    | none => exact hresume result (w.afterCall call device) labels events
    | some ms => exact hresume result ((w.afterCall call device).sleep ms) labels events
  · rw [hback] at hstep
    change (w.afterCall call device).answered answer written = _ at hresult
    rw [hresult]
    exact ⟨1, labels, events, frames, control, callDepth, hstep⟩

/-- A gesture is carried out, and the screen settles. -/
theorem perform {line : Nat} {g : Gesture Number}
    (h : At run frames callDepth (.perform line (g.map Number.toMillis)) w) :
    Follows settings d bound frames callDepth (w.perform settings d line g) run := by
  let settled : Control := if settings.settleDelay.val = 0 then .leave .next else .pause settings.settleDelay
  rw [World.perform, World.lasting_eq_toMillis]
  apply Follows.mono ?_ (Nat.le_succ bound)
  refine h.answered settled (·.performed settings line (g.map Number.toMillis)) (fun _ _ => ?_)
    (fun result w labels events => ?_) (fun result w => ?_) fun run w hback => ?_
  · rfl
  · unfold Machine.performed
    by_cases hzero : settings.settleDelay.val = 0
    · simp only [settled, hzero, if_true, Gesture.keyword_map]
      cases result <;> exact ⟨labels, _, rfl⟩
    · simp only [settled, hzero, if_false, Gesture.keyword_map]
      cases result <;> exact ⟨labels, _, rfl⟩
  · cases result <;> rfl
  · by_cases hzero : settings.settleDelay.val = 0
    · simp only [settled, hzero, if_true] at hback
      have hsame : w.sleep settings.settleDelay.toNat = w := by
        simp [World.sleep, Millis.toNat, hzero, Clock.sleepTime]
      rw [hsame]
      exact .of_done hback
    · simp only [settled, hzero, if_false] at hback
      exact .of_last hback.pause

/-- An image is searched. -/
theorem search {line : Nat} {lookup : ImageLookup} (h : At run frames callDepth (.search line lookup) w) :
    Follows settings d bound frames callDepth (w.search d line lookup) run := by
  have hset (w : World σ) (found : ImageMatch) : (w.setMatch lookup found).functions = w.functions := by
    unfold World.setMatch
    cases lookup.confidenceVar <;> rfl
  rw [← Evaluation.andThen_eq_self (w.search d line lookup)]
  unfold World.search
  apply Follows.mono ?_ (Nat.le_succ bound)
  refine h.answered (.leave .next) (·.searched line lookup) (fun _ _ => ?_)
    (fun result w labels events => ?_) (fun result w => ?_) fun run w hback => .of_done hback
  · rfl
  · simp only [Machine.searched, World.setMatch]
    cases result <;> cases lookup.confidenceVar <;> exact ⟨labels, _, rfl⟩
  · cases result <;> exact hset _ _

end At

/-- Writing a variable is the same in a run and in its world. -/
theorem assign_run (settings : Settings) (w : World σ) (line : Nat) (name : String) (source : SetSource)
    (labels : LabelScopes) (events : Array Event) :
    ∃ events',
      let run : Run (σ × List DeviceCall) := w.run false labels events frames control callDepth
      { run with machine := run.machine.assign settings line name source } =
        (w.assign settings line name source).run false labels events' frames control callDepth := by
  have hresolve (token : String) :
      (w.run false labels events frames control callDepth).machine.context.resolve token =
        w.context.resolve token := rfl
  unfold World.assign Machine.assign
  cases source with
  | literal token => exact ⟨events, rfl⟩
  | binary lhs op rhs =>
    by_cases harithmetic : settings.setArithmetic = true
    · simp only [harithmetic, if_true, hresolve]
      cases op.compute? (w.context.resolve lhs).toNumber (w.context.resolve rhs).toNumber with
      | none => exact ⟨_, rfl⟩
      | some n => exact ⟨events, rfl⟩
    · simp only [harithmetic]
      exact ⟨events, rfl⟩

/-- Every walk of a sequence inside of `callDepth` calls comes to what `evaluate` says. -/
def WalkFollows (settings : Settings) (d : Device σ) (bound callDepth : Nat) (commands : List Command)
    (evaluate : World σ → Evaluation σ) : Prop :=
  ∀ run scope outer w, At run (.sequence scope commands 0 :: outer) callDepth .fetch w →
    Follows settings d bound outer callDepth (evaluate w) run

section Commands

variable {scope index : Nat} {commands : List Command}
  {inner : Nat → List Command → World σ → Evaluation σ}

/-- A call comes to what it means if the body does. -/
theorem At.call {line : Nat} {name : String}
    (h : At run (.sequence scope commands index :: outer) callDepth .fetch w)
    (hcommand : commands[index]? = some (.leaf line (.call name)))
    (hinner : ∀ body, JumpFree body →
      WalkFollows settings d bound (callDepth + 1) body (inner (callDepth + 1) body)) :
    Follows settings d (bound + 1) (.sequence scope commands index :: outer) callDepth
      (Evaluation.instruction settings d inner callDepth line (.call name) w.counted) run := by
  obtain ⟨⟨labels, events, rfl⟩, hfunctions⟩ := h
  have hstep := At.step_fetch settings d w labels events scope outer callDepth hcommand
  simp only [Machine.dispatch, Machine.execute, Machine.call, Machine.note, World.run] at hstep
  simp only [Evaluation.instruction, World.counted]
  cases hbody : w.functions.get? name with
  | none =>
    rw [hbody] at hstep
    exact .of_last ⟨⟨_, _, hstep⟩, hfunctions⟩
  | some body =>
    rw [hbody] at hstep
    by_cases hdeep : settings.maxCallDepth.val ≤ callDepth
    · simp only [hdeep, if_true] at hstep ⊢
      exact .of_last ⟨⟨_, _, hstep⟩, hfunctions⟩
    · simp only [hdeep, if_false] at hstep ⊢
      have hwalk := hinner body (hfunctions name body hbody) _ _
        (.call labels.floor :: .sequence scope commands index :: outer) w.counted ⟨⟨_, _, hstep⟩, hfunctions⟩
      rw [← Evaluation.andThen_eq_self (inner (callDepth + 1) body _)]
      refine .of_step (hwalk.andThen fun run w hback => ?_)
      exact .of_last (hback.step (fun _ _ => ⟨_, _, rfl⟩) hback.functions)

/-- An instruction that is no jump comes to what it means if the body that it may call does. -/
theorem At.instruction {line : Nat} {instruction : Instruction}
    (h : At run (.sequence scope commands index :: outer) callDepth .fetch w)
    (hcommand : commands[index]? = some (.leaf line instruction))
    (hjump : instruction.jumpLabel? = none)
    (hinner : ∀ body, JumpFree body →
      WalkFollows settings d bound (callDepth + 1) body (inner (callDepth + 1) body)) :
    Follows settings d (bound + 1) (.sequence scope commands index :: outer) callDepth
      (Evaluation.instruction settings d inner callDepth line instruction w.counted) run := by
  -- The instruction needs the surroundings, or is done at once.
  have hwaits (control' : Control)
      (hdispatch : ∀ labels events, ∃ labels' events',
        let run := w.run false labels events (.sequence scope commands index :: outer) .fetch callDepth
        { run with machine := run.machine.dispatch settings index (.leaf line instruction) } =
          w.counted.run false labels' events' (.sequence scope commands index :: outer) control' callDepth) :=
    h.dispatch hcommand hdispatch h.functions (d := d)
  have hdone (w' : World σ) (hfunctions : w'.functions = w.functions)
      (hdispatch : ∀ labels events, ∃ labels' events',
        let run := w.run false labels events (.sequence scope commands index :: outer) .fetch callDepth
        { run with machine := run.machine.dispatch settings index (.leaf line instruction) } =
          w'.run false labels' events' (.sequence scope commands index :: outer) (.leave .next) callDepth) :
      Follows settings d (bound + 1) (.sequence scope commands index :: outer) callDepth (.done, w') run := by
    refine .of_last (h.dispatch hcommand hdispatch ?_)
    rw [hfunctions]
    exact h.functions
  cases instruction with
  | gesture g =>
    have hgesture := hwaits (.perform line (g.map Number.toMillis)) fun _ _ => ⟨_, _, rfl⟩
    exact .of_step hgesture.perform
  | delay ms =>
    have hpause := hwaits (.pause ms.toMillis) fun _ _ => ⟨_, _, rfl⟩
    rw [Evaluation.instruction, World.lasting_eq_toMillis]
    exact .of_step (.of_last hpause.pause)
  | stop =>
    obtain ⟨labels, events, rfl⟩ := h.state
    exact ⟨1, labels, _, callDepth, At.step_fetch settings d w labels events scope outer callDepth hcommand⟩
  | set name source =>
    refine hdone (w.counted.assign settings line name source) ?_ fun labels events => ?_
    · exact w.counted.functions_assign settings line name source
    obtain ⟨events', hassign⟩ := assign_run settings w.counted line name source labels _
    exact ⟨labels, events', congrArg (fun run : Run _ => { run with machine := run.machine.next }) hassign⟩
  | get name =>
    refine hdone w.counted rfl fun labels events => ?_
    simp only [Machine.dispatch, Machine.execute]
    split <;> exact ⟨labels, _, rfl⟩
  | label name =>
    refine hdone w.counted rfl fun labels events => ?_
    simp only [Machine.dispatch, Machine.execute]
    split <;> exact ⟨_, _, rfl⟩
  | goto label => cases hjump
  | gotoIf condition label => cases hjump
  | log message =>
    have htell := hwaits (.tell (.message (w.context.interpolate message))) fun _ _ => ⟨_, _, rfl⟩
    exact .of_step htell.tell
  | overlay message =>
    have htell := hwaits (.tell (.overlay (w.context.interpolate message) settings.overlayDuration))
      fun _ _ => ⟨_, _, rfl⟩
    exact .of_step htell.tell
  | logVariable name =>
    have htell := hwaits (.tell (.namedValue name (w.shown name))) fun _ _ => ⟨_, _, rfl⟩
    exact .of_step htell.tell
  | find lookup =>
    have hsearch := hwaits (.search line lookup) fun _ _ => ⟨_, _, rfl⟩
    exact .of_step hsearch.search
  | call name =>
    exact h.call hcommand hinner

/-- A condition is decided in the world. -/
theorem test_run (w : World σ) (condition : String) (labels : LabelScopes) (events : Array Event)
    (frames : List Frame) (control : Control) (callDepth : Nat) :
    ∃ events',
      (w.run false labels events frames control callDepth).machine.test condition =
        (Condition.isTrue w.context condition,
          (w.run false labels events' frames control callDepth).machine) := by
  have hdecide : Condition.decide? (w.run false labels events frames control callDepth).machine.context
      condition = Condition.decide? w.context condition := rfl
  unfold Machine.test Condition.isTrue
  rw [hdecide]
  cases Condition.decide? w.context condition with
  | ok holds => exact ⟨events, rfl⟩
  | error e => exact ⟨_, rfl⟩

/-- A branch comes to what it means if its blocks do. -/
theorem At.branch {line : Nat} {condition : String} {thenBlock elseBlock : List Command}
    {evaluate : List Command → World σ → Evaluation σ}
    (h : At run (.sequence scope commands index :: outer) callDepth .fetch w)
    (hcommand : commands[index]? = some (.branch line condition thenBlock elseBlock))
    (hthen : WalkFollows settings d bound callDepth thenBlock (evaluate thenBlock))
    (helse : WalkFollows settings d bound callDepth elseBlock (evaluate elseBlock)) :
    Follows settings d (bound + 1) (.sequence scope commands index :: outer) callDepth
      (evaluate (if Condition.isTrue w.context condition then thenBlock else elseBlock) w.counted) run := by
  obtain ⟨⟨labels, events, rfl⟩, hknown⟩ := h
  let frames : List Frame := .sequence scope commands index :: outer
  let noted := events.push (.dispatched line "if")
  obtain ⟨events', htest⟩ := test_run w.counted condition labels noted frames .fetch callDepth
  have hdispatch : (w.run false labels events frames .fetch callDepth).machine.dispatch settings index
      (.branch line condition thenBlock elseBlock) =
        (w.counted.run false labels events' frames .fetch callDepth).machine.enter settings
          (if Condition.isTrue w.context condition then thenBlock else elseBlock) :=
    Machine.dispatch_branch settings _ htest
  have hstep := (At.step_fetch settings d w labels events scope outer callDepth hcommand).trans
    (congrArg (fun m : Machine => (⟨m, (w.device, w.calls), false, w.elapsed, .running⟩ : Run _)) hdispatch)
  refine .of_step ?_
  split at hstep
  next hholds =>
    rw [if_pos hholds]
    exact hthen _ _ frames w.counted ⟨⟨_, _, hstep⟩, hknown⟩
  next hnot =>
    rw [if_neg hnot]
    exact helse _ _ frames w.counted ⟨⟨_, _, hstep⟩, hknown⟩

/-- A loop lets others go first between two passes. -/
theorem At.repass {condition : String} {body : List Command}
    (h : At run (.loop condition body :: outer) callDepth (.leave .next) w) :
    At ((run.step settings (d.logged none)).step settings (d.logged none))
      (.loop condition body :: outer) callDepth .again w := by
  obtain ⟨⟨labels, events, rfl⟩, hfunctions⟩ := h
  exact ⟨⟨labels, events, rfl⟩, hfunctions⟩

/-- A loop comes to what it means if its body does. Each pass takes a turn, so that the run has taken as
many turns as the evaluation has made passes. -/
theorem At.whileTrue {condition : String} {body : List Command} {evaluate : World σ → Evaluation σ}
    (hbody : WalkFollows settings d bound callDepth body evaluate) {passes : Nat} (hle : passes ≤ bound)
    (h : At run (.loop condition body :: outer) callDepth .again w) :
    Follows settings d passes outer callDepth
      (Evaluation.whileTrue (fun w => Condition.isTrue w.context condition) evaluate passes w) run := by
  induction passes generalizing run w with
  | zero =>
    obtain ⟨labels, events, hrun⟩ := h.state
    exact ⟨0, Nat.le_refl 0, labels, events, _, _, _, hrun⟩
  | succ passes ih =>
    obtain ⟨⟨labels, events, rfl⟩, hfunctions⟩ := h
    let frames : List Frame := .loop condition body :: outer
    obtain ⟨events', htest⟩ := test_run w condition labels events frames .again callDepth
    have hagain := Machine.again_loop settings (w.run false labels events frames .again callDepth).machine
      rfl rfl htest
    have hstep := step_own settings (d.logged none)
      (w.run false labels events frames .again callDepth) _ rfl
      (congrArg (fun m : Machine => (⟨m, (w.device, w.calls), false, .proceed⟩ : Turn _)) hagain)
    simp only [Evaluation.whileTrue]
    by_cases hholds : Condition.isTrue w.context condition = true
    · simp only [hholds, if_true] at hstep ⊢
      have hwalk := hbody _ _ frames w ⟨⟨_, _, hstep⟩, hfunctions⟩
      refine .of_step ((hwalk.mono (Nat.le_of_succ_le hle)).andThen fun run w hback => ?_)
      refine Follows.mono (.of_step (.of_step ?_)) (Nat.le_add_right passes 2)
      exact ih (Nat.le_of_succ_le hle) hback.repass
    · simp only [hholds] at hstep ⊢
      exact .of_last ⟨⟨_, _, hstep⟩, hfunctions⟩

/-- A counted loop comes to what it means if its body does. -/
theorem At.counted {count passes : Nat} {counter : Option String} {body : List Command}
    {evaluate : World σ → Evaluation σ} (hcount : (count : Int) ≤ 4294967295)
    (hbody : WalkFollows settings d bound callDepth body evaluate)
    (h : At run (.counted count passes counter body :: outer) callDepth .again w) :
    Follows settings d bound outer callDepth
      (Evaluation.inOrder (fun n w => evaluate (w.setCounter counter n)) (passNumbers passes count) w)
      run := by
  generalize hleft : count - passes = left
  induction left generalizing passes run w with
  | zero =>
    have hover : count ≤ passes := Nat.le_of_sub_eq_zero hleft
    rw [passNumbers_of_le hover]
    refine .of_last (h.step (fun labels events => ?_) h.functions)
    refine ⟨labels, events, step_own settings _ _ _ rfl ?_⟩
    simp [World.run, Machine.turn, Machine.again, hover, Machine.exitLoop]
  | succ left ih =>
    have hless : passes < count := by omega
    rw [passNumbers_of_lt hless hcount, Evaluation.inOrder]
    have hfunctions : (w.setCounter counter (Machine.passNumber (passes + 1))).functions = w.functions := by
      cases counter <;> rfl
    obtain ⟨⟨labels, events, rfl⟩, hknown⟩ := h
    -- The counter is written and the body is entered.
    let w' := w.setCounter counter (Machine.passNumber (passes + 1))
    have hentered : ∃ scope labels',
        (w.run false labels events (.counted count passes counter body :: outer) .again callDepth).step
          settings (d.logged none) =
        w'.run false labels' events
          (.sequence scope body 0 :: .counted count (passes + 1) counter body :: outer) .fetch callDepth := by
      have hturn := step_own settings (d.logged none)
        (w.run false labels events (.counted count passes counter body :: outer) .again callDepth)
        ((w'.run false labels events (.counted count (passes + 1) counter body :: outer) .again
          callDepth).machine.enter settings body) rfl (by
            cases counter <;> simp [w', World.run, Machine.turn, Machine.again, Machine.isHalted,
              Nat.not_le.mpr hless, World.setCounter, Context.setCounter])
      rw [hturn]
      cases counter <;> exact ⟨_, _, rfl⟩
    obtain ⟨scope, labels', hstep⟩ := hentered
    have hwalk := hbody _ scope (.counted count (passes + 1) counter body :: outer) w'
      ⟨⟨labels', events, hstep⟩, hfunctions ▸ hknown⟩
    refine Follows.mono (.of_step (hwalk.andThen fun run w hback => ?_)) (Nat.le_succ bound)
    have hmore : At (run.step settings (d.logged none)) (.counted count (passes + 1) counter body :: outer)
        callDepth .again w := hback.step (fun _ _ => ⟨_, _, rfl⟩) hback.functions
    exact Follows.mono (.of_step (ih hmore (by omega))) (Nat.le_succ bound)

/-- A command comes to what it means if its blocks and the bodies that it may call do. -/
theorem At.command {fuel : Nat} {command : Command}
    (h : At run (.sequence scope commands index :: outer) callDepth .fetch w)
    (hcommand : commands[index]? = some command) (hfree : JumpFree commands)
    (hinner : ∀ depth body, JumpFree body → WalkFollows settings d fuel depth body (inner depth body)) :
    Follows settings d (fuel + 1) (.sequence scope commands index :: outer) callDepth
      (Evaluation.command settings d fuel inner callDepth command w) run := by
  have hmem := List.mem_of_getElem? hcommand
  have hblock {block : List Command} (hblock : block ∈ command.bodies) : JumpFree block :=
    hfree.part (Part.body (.refl _) hmem hblock)
  cases command with
  | leaf line instruction =>
    have hjump := hfree _ (Command.mem_allOf hmem)
    exact h.instruction hcommand (Option.isNone_iff_eq_none.mp hjump) fun body => hinner _ body
  | branch line condition thenBlock elseBlock =>
    have hthen : JumpFree thenBlock := hblock (by simp [Command.bodies])
    have helse : JumpFree elseBlock := hblock (by simp [Command.bodies])
    exact h.branch hcommand (hinner callDepth _ hthen) (hinner callDepth _ helse)
  | loop line condition body =>
    have hloop : At (run.step settings (d.logged none))
        (.loop condition body :: .sequence scope commands index :: outer) callDepth .again w.counted :=
      h.dispatch hcommand (fun _ _ => ⟨_, _, rfl⟩) h.functions
    exact .of_step (hloop.whileTrue (hinner _ body (hblock (by simp [Command.bodies]))) (Nat.le_refl fuel))
  | counted line count counter body =>
    have hloop : At (run.step settings (d.logged none))
        (.counted count.val.toNat 0 counter body :: .sequence scope commands index :: outer) callDepth
        .again w.counted :=
      h.dispatch hcommand (fun _ _ => ⟨_, _, rfl⟩) h.functions
    have hcount : (count.val.toNat : Int) ≤ 4294967295 := by
      have hle := count.le_hi
      omega
    exact .of_step (hloop.counted hcount (hinner _ body (hblock (by simp [Command.bodies]))))
  | function line name body =>
    refine .of_last (h.dispatch hcommand (fun _ _ => ⟨_, _, rfl⟩) fun other found hget => ?_)
    rw [Bindings.get?_set] at hget
    split at hget
    next =>
      cases hget
      exact hblock (by simp [Command.bodies])
    next => exact h.functions other found hget

/-- A sequence comes to what it means if its blocks and the bodies that it may call do. -/
theorem walkFollows_inOrder {fuel : Nat} (hfree : JumpFree commands)
    (hinner : ∀ depth body, JumpFree body → WalkFollows settings d fuel depth body (inner depth body)) :
    WalkFollows settings d (fuel + 1) callDepth commands
      (Evaluation.inOrder (Evaluation.command settings d fuel inner callDepth) commands) := by
  intro run scope outer w h
  suffices hfrom : ∀ rest index run w, commands.drop index = rest →
      At run (.sequence scope commands index :: outer) callDepth .fetch w →
        Follows settings d (fuel + 1) outer callDepth
          (Evaluation.inOrder (Evaluation.command settings d fuel inner callDepth) rest w) run by
    exact hfrom commands 0 run w rfl h
  intro rest
  induction rest with
  | nil =>
    intro index run w hrest h
    exact .of_last (h.finish (List.getElem?_eq_none (List.drop_eq_nil_iff.mp hrest)))
  | cons command rest ih =>
    intro index run w hrest h
    have hcommand : commands[index]? = some command := by
      rw [← List.head?_drop, hrest, List.head?_cons]
    have hbehind : commands.drop (index + 1) = rest := by
      rw [← List.tail_drop, hrest, List.tail_cons]
    refine (h.command hcommand hfree hinner).andThen fun run w hback => ?_
    exact Follows.mono (.of_step (ih (index + 1) _ w hbehind hback.advance)) (Nat.le_succ _)

end Commands

/-- Every walk of a sequence without jumps comes to what the sequence means. -/
theorem walkFollows_sequence (settings : Settings) (d : Device σ) (fuel callDepth : Nat)
    {commands : List Command} (hfree : JumpFree commands) :
    WalkFollows settings d fuel callDepth commands
      (Evaluation.sequence settings d fuel callDepth commands) := by
  induction fuel generalizing callDepth commands with
  | zero =>
    intro run scope outer w h
    obtain ⟨labels, events, hrun⟩ := h.state
    exact ⟨0, Nat.le_refl 0, labels, events, _, _, _, hrun⟩
  | succ fuel ih => exact walkFollows_inOrder hfree fun depth body hbody => ih depth hbody

end Run

end TouchScript
