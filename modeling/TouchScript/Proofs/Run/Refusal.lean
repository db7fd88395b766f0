import TouchScript.Proofs.Labels.Lexical
import TouchScript.Proofs.Run.Step

namespace TouchScript

namespace Machine

/-- Why an instruction cannot be carried out in a state. -/
inductive Declines (settings : Settings) (m : Machine) (line : Nat) : Instruction → RunError → Prop where
  /-- No sequence in reach has the label. -/
  | label {instruction : Instruction} {label : String} (hjumps : instruction.JumpsTo m.context label)
      (hlabel : m.context.labels.resolve label = none) :
      Declines settings m line instruction (.labelNotFound line label)
  /-- No function of this name has been defined. -/
  | function {name : String} (hname : m.context.functions.get? name = none) :
      Declines settings m line (.call name) (.functionNotFound line name)
  /-- The run is inside of as many calls as it may be. -/
  | depth {name : String} {body : List Command} (hbody : m.context.functions.get? name = some body)
      (hdepth : settings.maxCallDepth.val ≤ m.callDepth) :
      Declines settings m line (.call name) (.callDepthExceeded line name settings.maxCallDepth)
  /-- The operation has no result in range. -/
  | arithmetic {name lhs rhs : String} {op : Operator} (hon : settings.setArithmetic = true)
      (hnone : op.compute? (m.context.resolve lhs).toNumber (m.context.resolve rhs).toNumber = none) :
      Declines settings m line (.set name (.binary lhs op rhs))
        (.arithmetic line (m.context.resolve lhs).toNumber op (m.context.resolve rhs).toNumber)

/-- What is left of an instruction that cannot be carried out: it has been counted, its error is
noted, and the next command may come. -/
def declined (m : Machine) (line : Nat) (instruction : Instruction) (e : RunError) : Machine :=
  { m with
    steps := m.steps + 1
    errors := m.errors.push e
    events := (m.events.push (.dispatched line instruction.keyword)).push (.failed e)
    control := .leave .next }

variable {settings : Settings} {m : Machine} {line : Nat} {instruction : Instruction} {e : RunError}

/-- An instruction that is declined leaves its error and nothing else. -/
theorem dispatch_of_declines (h : m.Declines settings line instruction e) (index : Nat) :
    m.dispatch settings index (.leaf line instruction) = m.declined line instruction e := by
  cases h with
  | label hjumps hlabel =>
    have hcounted : (m.counting (.leaf line instruction)).context.labels.resolve _ = none := hlabel
    rw [dispatch_jump settings m hjumps, jump, hcounted]
    rfl
  | @function name hname =>
    have hcounted : (m.counting (.leaf line (.call name))).context.functions.get? name = none := hname
    rw [dispatch_leaf, execute, call, hcounted]
    rfl
  | @depth name body hbody hdepth =>
    have hcounted : (m.counting (.leaf line (.call name))).context.functions.get? name = some body := hbody
    have hcalls : settings.maxCallDepth.val ≤ (m.counting (.leaf line (.call name))).callDepth := hdepth
    rw [dispatch_leaf, execute, call, hcounted]
    dsimp only
    rw [if_pos hcalls]
    rfl
  | @arithmetic name lhs rhs op hon hnone =>
    have hcounted : (m.counting (.leaf line (.set name (.binary lhs op rhs)))).context = m.context := rfl
    rw [dispatch_leaf, execute, assign]
    simp only [hcounted, hon, hnone, if_true]
    rfl

/-- A malformed condition counts as one that does not hold. -/
theorem fst_test (m : Machine) (condition : String) :
    (m.test condition).1 = Condition.isTrue m.context condition := by
  unfold test Condition.isTrue
  cases Condition.decide? m.context condition <;> rfl

/-- A jump fails because its label is not found, or leaves no error. -/
theorem jump_cases (m : Machine) (line : Nat) (label : String) :
    m.context.labels.resolve label = none ∨ (m.jump line label).errors = m.errors := by
  unfold jump
  split
  next => exact .inr rfl
  next hlabel => exact .inl hlabel

/-- An instruction that adds an error at once cannot be carried out. -/
theorem exists_declines {index : Nat}
    (herrors : (m.dispatch settings index (.leaf line instruction)).errors ≠ m.errors) :
    ∃ e, m.Declines settings line instruction e := by
  rw [dispatch_leaf] at herrors
  cases instruction with
  | goto label =>
    rcases jump_cases (m.counting (.leaf line (.goto label))) line label with hlabel | hsame
    · exact ⟨_, .label rfl hlabel⟩
    · exact absurd hsame herrors
  | gotoIf condition label =>
    obtain ⟨holds, noted, htest⟩ := (m.counting (.leaf line (.gotoIf condition label))).test_eq condition
    simp only [execute, htest] at herrors
    cases holds with
    | false => exact absurd rfl herrors
    | true =>
      have htrue : Condition.isTrue m.context condition = true :=
        (fst_test (m.counting (.leaf line (.gotoIf condition label))) condition).symm.trans
          (congrArg Prod.fst htest)
      rcases jump_cases { m.counting (.leaf line (.gotoIf condition label)) with events := noted } line label
        with hlabel | hsame
      · exact ⟨_, .label ⟨rfl, htrue⟩ hlabel⟩
      · exact absurd hsame herrors
  | call name =>
    simp only [execute, call] at herrors
    split at herrors
    next hname => exact ⟨_, .function hname⟩
    next body hbody =>
      split at herrors
      next hdepth => exact ⟨_, .depth hbody hdepth⟩
      next => exact absurd rfl herrors
  | set name source =>
    cases source with
    | literal token => exact absurd rfl herrors
    | binary lhs op rhs =>
      simp only [execute, assign] at herrors
      split at herrors
      next hon =>
        split at herrors
        next => exact absurd rfl herrors
        next hnone => exact ⟨_, .arithmetic hon hnone⟩
      next => exact absurd rfl herrors
  | get name =>
    simp only [execute] at herrors
    split at herrors <;> exact absurd rfl herrors
  | label name =>
    simp only [execute] at herrors
    split at herrors <;> exact absurd rfl herrors
  | _ => exact absurd rfl herrors

end Machine

namespace Run

variable {σ : Type} {settings : Settings} {d : Device σ} {run : Run σ}

/-- A run is about to dispatch an instruction, wherever it has come from. -/
structure Faces (run : Run σ) (scope index line : Nat) (sequence : List Command) (outer : List Frame)
    (instruction : Instruction) : Prop where
  running : run.status = .running
  going : run.machine.isHalted run.cancelled = false
  control : run.machine.control = .fetch
  frames : run.machine.frames = .sequence scope sequence index :: outer
  command : sequence[index]? = some (.leaf line instruction)

variable {scope index line : Nat} {sequence : List Command} {outer : List Frame} {instruction : Instruction}

/-- The next step dispatches the instruction. -/
theorem Faces.step (h : run.Faces scope index line sequence outer instruction) :
    run.step settings d =
      { run with machine := run.machine.dispatch settings index (.leaf line instruction) } := by
  have hturn : run.machine.turn settings d run.device run.cancelled =
      ⟨run.machine.dispatch settings index (.leaf line instruction), run.device, run.cancelled, .proceed⟩ := by
    simp only [Machine.turn, Machine.fetch, h.control, h.frames, h.going, h.command, Bool.false_eq_true,
      if_false]
  rw [step_of_running settings d h.running, hturn]
  simp only [Signal.slept, Signal.status, Nat.add_zero, h.running]

/-- A sequence goes on with the next command. -/
theorem step_of_next (hrunning : run.status = .running) (hcontrol : run.machine.control = .leave .next)
    (hframes : run.machine.frames = .sequence scope sequence index :: outer) :
    run.step settings d =
      { run with
        machine :=
          { run.machine with frames := .sequence scope sequence (index + 1) :: outer, control := .fetch } } := by
  have hturn : run.machine.turn settings d run.device run.cancelled =
      ⟨{ run.machine with frames := .sequence scope sequence (index + 1) :: outer, control := .fetch },
        run.device, run.cancelled, .proceed⟩ := by
    simp [Machine.turn, Machine.isFinished, Machine.leave, hcontrol, hframes]
  rw [step_of_running settings d hrunning, hturn]
  simp only [Signal.slept, Signal.status, Nat.add_zero, hrunning]

/-- A search comes back with its result, unless it breaks down. -/
theorem machine_step_search {lookup : ImageLookup} (hrunning : run.status = .running)
    (hcontrol : run.machine.control = .search line lookup) :
    (run.step settings d).machine =
      match (d.search run.device lookup.path).1.reply with
      | .ok answer => run.machine.searched line lookup (.ok answer)
      | .error e => run.machine.searched line lookup (.error e)
      | .crash _ => run.machine := by
  rw [step_of_running settings d hrunning]
  simp only [Machine.turn, hcontrol, Machine.afterCall]
  cases (d.search run.device lookup.path).1.reply with
  | ok answer => rfl
  | error e => rfl
  | crash o => rfl

/-- A search is dispatched in one step, and in the next goes on with what the device replies. -/
theorem Faces.steps_two (settings : Settings) (d : Device σ) {lookup : ImageLookup}
    (h : run.Faces scope index line sequence outer (.find lookup)) :
    (run.steps settings d 2).machine =
      match (d.search run.device lookup.path).1.reply with
      | .ok answer => (run.machine.counting (.leaf line (.find lookup))).searched line lookup (.ok answer)
      | .error e => (run.machine.counting (.leaf line (.find lookup))).searched line lookup (.error e)
      | .crash _ => (run.machine.counting (.leaf line (.find lookup))).goOn (.search line lookup) := by
  rw [steps, steps, steps, h.step]
  exact machine_step_search h.running rfl

end Run

/-- The values of variables after a search that has found nothing: no position and no confidence. -/
def ImageLookup.IsBlank (lookup : ImageLookup) (before after : Bindings Value) : Prop :=
  ∀ name, after.get? name =
    if lookup.confidenceVar = some name then some (.text "0.0")
    else if name = lookup.xVar ∨ name = lookup.yVar then some (.number ⟨-1, by decide, by decide⟩)
    else before.get? name

namespace Machine

/-- A search that fails writes what a search writes that finds nothing. -/
theorem context_searched_error (m : Machine) (line : Nat) (lookup : ImageLookup) (e : DeviceError)
    {answer : ImageMatch} (hfound : answer.found = false) :
    (m.searched line lookup (.ok answer)).context = (m.searched line lookup (.error e)).context := by
  simp only [searched, hfound, Bool.false_eq_true, if_false]
  rfl

/-- A search that has failed writes no position and no confidence into its variables, also where
their names coincide. -/
theorem isBlank_searched (m : Machine) (line : Nat) (lookup : ImageLookup) (e : DeviceError) :
    lookup.IsBlank m.context.values (m.searched line lookup (.error e)).context.values := by
  have hconfidence : ImageMatch.notFound.confidence.textWithPoint = "0.0" := by decide +kernel
  obtain ⟨path, xVar, yVar, confidenceVar⟩ := lookup
  have hposition (name : String) :
      ((m.context.values.set xVar (.number ImageMatch.notFound.x.toNumber)).set yVar
          (.number ImageMatch.notFound.y.toNumber)).get? name =
        if name = xVar ∨ name = yVar then some (.number ⟨-1, by decide, by decide⟩)
        else m.context.values.get? name := by
    rw [Bindings.get?_set, Bindings.get?_set]
    by_cases hy : yVar = name
    · simp only [hy, or_true, if_true]
      rfl
    · by_cases hx : xVar = name
      · simp only [hx, hy, true_or, if_true, if_false]
        rfl
      · simp only [hx, hy, Ne.symm hx, Ne.symm hy, or_self, if_false]
  intro name
  cases confidenceVar with
  | none => exact hposition name
  | some confidence =>
    change (Bindings.set _ confidence (Value.text ImageMatch.notFound.confidence.textWithPoint)).get? name = _
    rw [Bindings.get?_set, hconfidence]
    simp only [Option.some.injEq]
    split
    · rfl
    · exact hposition name

end Machine

namespace Run

variable {σ : Type} {settings : Settings} {d : Device σ} {run : Run σ} {scope index line : Nat}
  {sequence : List Command} {outer : List Frame} {instruction : Instruction}

/-- A command that fails has no effect. An instruction adds an error to the report as soon as it is
dispatched exactly if it cannot be carried out, and then the run is where the next command begins, with
the command counted and the error noted and everything else as before, whatever the device would do. A
search that adds an error has failed, and it leaves the same context as a search that finds nothing. -/
theorem failed_commands_have_no_effect (settings : Settings) (d : Device σ)
    (h : run.Faces scope index line sequence outer instruction) :
    ((run.step settings d).machine.errors ≠ run.machine.errors ↔
      ∃ e, run.machine.Declines settings line instruction e) ∧
    (∀ e, run.machine.Declines settings line instruction e →
      run.step settings d = { run with machine := run.machine.declined line instruction e } ∧
      run.steps settings d 2 =
        { run with
          machine :=
            { run.machine.declined line instruction e with
              frames := .sequence scope sequence (index + 1) :: outer
              control := .fetch } }) ∧
    ∀ lookup, instruction = .find lookup → (run.steps settings d 2).machine.errors ≠ run.machine.errors →
      ∃ e, (d.search run.device lookup.path).1.reply = .error e ∧
        (run.steps settings d 2).machine.errors =
          run.machine.errors.push (.device line "findimageposition" e) ∧
        lookup.IsBlank run.machine.context.values (run.steps settings d 2).machine.context.values ∧
        ∀ {τ : Type} (other : Device τ) (device : τ) (answer : ImageMatch),
          (other.search device lookup.path).1.reply = .ok answer → answer.found = false →
          (steps settings other 2 { run with device }).machine.context =
            (run.steps settings d 2).machine.context := by
  refine ⟨⟨fun herrors => ?_, ?_⟩, fun e he => ?_, ?_⟩
  · rw [h.step] at herrors
    exact Machine.exists_declines herrors
  · rintro ⟨e, he⟩ hsame
    rw [h.step, Machine.dispatch_of_declines he] at hsame
    have hsize := congrArg Array.size hsame
    simp [Machine.declined] at hsize
  · have hstep : run.step settings d = { run with machine := run.machine.declined line instruction e } := by
      rw [h.step, Machine.dispatch_of_declines he]
    refine ⟨hstep, ?_⟩
    rw [steps, steps, steps, hstep]
    exact step_of_next h.running rfl h.frames
  · rintro lookup rfl herrors
    have hsearched := h.steps_two settings d
    cases hreply : (d.search run.device lookup.path).1.reply with
    | ok answer =>
      rw [hreply] at hsearched
      exact absurd (by rw [hsearched]; rfl) herrors
    | crash o =>
      rw [hreply] at hsearched
      exact absurd (by rw [hsearched]; rfl) herrors
    | error e =>
      rw [hreply] at hsearched
      refine ⟨e, rfl, ?_, ?_, ?_⟩
      · rw [hsearched]
        rfl
      · rw [hsearched]
        exact Machine.isBlank_searched _ line lookup e
      · -- Where nothing is found, the same is written as after a failure.
        intro τ other device answer hother hfound
        have hfaces : Faces { run with device } scope index line sequence outer (.find lookup) :=
          ⟨h.running, h.going, h.control, h.frames, h.command⟩
        rw [hsearched, hfaces.steps_two, hother]
        exact Machine.context_searched_error _ line lookup e hfound

/-- A jump without its label, and a search that gives all its variables one name. -/
def twoFailures : List Command :=
  [.leaf 1 (.goto "home"), .leaf 2 (.find ⟨"door.png", "door", "door", some "door"⟩)]

/-- A device whose searches fail. -/
def blindDevice : Device Unit where
  perform device _ := (⟨.ok (), none, false⟩, device)
  search device _ := (⟨.error (.commandFailed "camera off"), none, false⟩, device)
  tell device _ := ([], false, device)

/-- The jump leaves the run before the search, and the search leaves the confidence of an image that was
not found. -/
theorem twoFailures_have_no_effect :
    let run := start Settings.default twoFailures () false
    let after := run.steps Settings.default blindDevice 2
    run.Faces 0 0 1 twoFailures [] (.goto "home") ∧
    after.machine.errors = #[.labelNotFound 1 "home"] ∧ after.machine.context.values = [] ∧
    after.Faces 0 1 2 twoFailures [] (.find ⟨"door.png", "door", "door", some "door"⟩) ∧
    (after.steps Settings.default blindDevice 2).machine.errors =
      #[.labelNotFound 1 "home", .device 2 "findimageposition" (.commandFailed "camera off")] ∧
    (after.steps Settings.default blindDevice 2).machine.context.values.get? "door" = some (.text "0.0") := by
  intro run after
  have hfirst : run.Faces 0 0 1 twoFailures [] (.goto "home") := ⟨rfl, rfl, rfl, rfl, rfl⟩
  have hdeclines : run.machine.Declines Settings.default 1 (.goto "home") (.labelNotFound 1 "home") :=
    .label rfl rfl
  have hafter := ((failed_commands_have_no_effect Settings.default blindDevice hfirst).2.1 _ hdeclines).2
  have hsecond : after.Faces 0 1 2 twoFailures [] (.find ⟨"door.png", "door", "door", some "door"⟩) := by
    simp only [after, hafter]
    exact ⟨rfl, rfl, rfl, rfl, rfl⟩
  have hsearch := (failed_commands_have_no_effect Settings.default blindDevice hsecond).2.2 _ rfl
  obtain ⟨e, he, herrors, hblank, _⟩ := hsearch (by decide)
  cases he
  have hbefore : after.machine.errors = #[.labelNotFound 1 "home"] := by
    simp only [after, hafter]
    rfl
  refine ⟨hfirst, hbefore, ?_, hsecond, ?_, hblank "door"⟩
  · simp only [after, hafter]
    rfl
  · rw [herrors, hbefore]
    rfl

end Run

end TouchScript
