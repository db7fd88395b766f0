import TouchScript.Proofs.Run.Calls

namespace TouchScript

/-- The keywords of the gestures. -/
def Gesture.keywords : List String :=
  ["click", "threefingertap", "longpress", "swipe", "zoomin", "zoomout", "multitap", "swipepath"]

/-- No gesture has a keyword that is not listed. -/
theorem Gesture.keyword_mem {δ : Type} (g : Gesture δ) : g.keyword ∈ keywords := by
  cases g with
  | zoom center distance duration direction => cases direction <;> simp [keyword, keywords]
  | _ => simp [keyword, keywords]

/-- Whether an error is the failure of a gesture. -/
def RunError.isGestureFailure : RunError → Bool
  | .device _ keyword _ => keyword ∈ Gesture.keywords
  | _ => false

/-- The errors without the failures of gestures. -/
def besideGestures (errors : List RunError) : List RunError :=
  errors.filter fun e => !e.isGestureFailure

/-- Errors that agree but for gestures still do when both get another error. -/
theorem besideGestures_push {errors errors' : Array RunError}
    (herrors : besideGestures errors.toList = besideGestures errors'.toList) (e : RunError) :
    besideGestures (errors.push e).toList = besideGestures (errors'.push e).toList := by
  simp only [besideGestures, Array.toList_push, List.filter_append] at herrors ⊢
  rw [herrors]

/-- The failure of a gesture does not count. -/
theorem besideGestures_push_of_gesture {e : RunError} (hgesture : e.isGestureFailure = true)
    (errors : Array RunError) : besideGestures (errors.push e).toList = besideGestures errors.toList := by
  simp [besideGestures, hgesture]

/-- How a call has broken down, if it has. -/
def Reply.breakdown? {α : Type} : Reply α → Option Overflow
  | .crash o => some o
  | _ => none

/-- What a call has come back with, unless it has broken down. -/
def Reply.result? {α : Type} : Reply α → Option (Except DeviceError α)
  | .ok result => some (.ok result)
  | .error e => some (.error e)
  | .crash _ => none

namespace Device

variable {σ τ : Type}

/-- The state of a device after a call. -/
def react (d : Device σ) (device : σ) : DeviceCall → σ
  | .gesture g => (d.perform device g).2
  | .search path => (d.search device path).2
  | .tell call => (d.tell device call).2.2

/-- How a device breaks down in a call, if it does. A log call always comes back. -/
def breakdown? (d : Device σ) (device : σ) : DeviceCall → Option Overflow
  | .gesture g => (d.perform device g).1.reply.breakdown?
  | .search path => (d.search device path).1.reply.breakdown?
  | .tell _ => none

/-- The state of a device after some calls. -/
def after (d : Device σ) (device : σ) (calls : List DeviceCall) : σ :=
  calls.foldl d.react device

/-- Two devices in these states answer every search in the same way and carry out the same gestures.
Nothing is said of which of these succeed. -/
structure AgreesAt (d : Device σ) (device : σ) (e : Device τ) (other : τ) : Prop where
  search : ∀ path, (d.search device path).1.reply = (e.search other path).1.reply
  perform : ∀ g, (d.perform device g).1.reply.breakdown? = (e.perform other g).1.reply.breakdown?

end Device

namespace Machine

/-- A run breaks down in a turn exactly if its device breaks down in the call that it makes. -/
theorem status_turn_eq_crashed_iff {σ : Type} (settings : Settings) (m : Machine) (d : Device σ)
    (device : σ) (cancelled : Bool) (o : Overflow) :
    (m.turn settings d device cancelled).signal.status = .crashed o ↔
      ∃ call, m.control.call? = some call ∧ d.breakdown? device call = some o := by
  have hcall {α : Type} (after : σ) (answer : Answer α) (resume : Except DeviceError α → Machine) :
      (m.afterCall after cancelled answer resume).signal.status = .crashed o ↔
        answer.reply.breakdown? = some o := by
    unfold afterCall
    cases answer.reply with
    | crash broken => simp [Signal.status, Reply.breakdown?]
    | _ => cases answer.sleep <;> simp [Signal.status, Reply.breakdown?]
  unfold turn
  cases m.control with
  | perform line g => simpa [Control.call?, Device.breakdown?] using hcall _ _ _
  | search line lookup => simpa [Control.call?, Device.breakdown?] using hcall _ _ _
  | leave flow => by_cases hfinished : m.isFinished = true <;> simp [hfinished, Control.call?, Signal.status]
  | _ => simp [Control.call?, Device.breakdown?, Signal.status]

/-- Two machines that differ at most in their events and in failures of gestures. Neither directs a
machine. -/
def Alike (m m' : Machine) : Prop :=
  ∃ errors events, m' = { m with errors, events } ∧
    besideGestures errors.toList = besideGestures m.errors.toList

namespace Alike

variable {m m' : Machine} (h : Alike m m')

protected theorem refl (m : Machine) : Alike m m :=
  ⟨m.errors, m.events, rfl, rfl⟩

include h

/-- The same error may be noted in both machines. -/
theorem fail (e : RunError) : Alike (m.fail e) (m'.fail e) := by
  obtain ⟨errors, events, rfl, herrors⟩ := h
  exact ⟨errors.push e, _, rfl, besideGestures_push herrors e⟩

/-- The failure of a gesture may be on record in one machine and not in the other. -/
theorem fail_left {e : RunError} (hgesture : e.isGestureFailure = true) : Alike (m.fail e) m' := by
  obtain ⟨errors, events, rfl, herrors⟩ := h
  exact ⟨errors, events, rfl, herrors.trans (besideGestures_push_of_gesture hgesture m.errors).symm⟩

/-- The failure of a gesture may be noted in the second alone. -/
theorem fail_right {e : RunError} (hgesture : e.isGestureFailure = true) : Alike m (m'.fail e) := by
  obtain ⟨errors, events, rfl, herrors⟩ := h
  exact ⟨errors.push e, _, rfl, (besideGestures_push_of_gesture hgesture errors).trans herrors⟩

/-- Any events may be noted in either. -/
theorem noted (events events' : List Event) : Alike (events.foldl note m) (events'.foldl note m') := by
  obtain ⟨noted, hnoted⟩ := m.foldl_note_eq events
  obtain ⟨noted', hnoted'⟩ := m'.foldl_note_eq events'
  obtain ⟨errors, _, rfl, herrors⟩ := h
  rw [hnoted, hnoted']
  exact ⟨errors, noted', rfl, herrors⟩

/-- Both machines may go on with the same. -/
theorem goOn (control : Control) : Alike (m.goOn control) (m'.goOn control) := by
  obtain ⟨errors, events, rfl, herrors⟩ := h
  exact ⟨errors, events, rfl, herrors⟩

/-- Both machines may enter a sequence. -/
theorem enter (settings : Settings) (commands : List Command) :
    Alike (m.enter settings commands) (m'.enter settings commands) := by
  obtain ⟨errors, events, rfl, herrors⟩ := h
  exact ⟨errors, events, rfl, herrors⟩

/-- A condition is decided alike in both, as they have one context. -/
theorem test (condition : String) : ∃ holds tested tested', m.test condition = (holds, tested) ∧
    m'.test condition = (holds, tested') ∧ Alike tested tested' := by
  obtain ⟨errors, events, rfl, herrors⟩ := h
  unfold Machine.test
  dsimp only
  split
  · exact ⟨_, _, _, rfl, rfl, errors, events, rfl, herrors⟩
  · exact ⟨_, _, _, rfl, rfl, errors, _, rfl, herrors⟩

/-- Both machines write the same value, or note the same error. -/
theorem assign (settings : Settings) (line : Nat) (name : String) (source : SetSource) :
    Alike (m.assign settings line name source) (m'.assign settings line name source) := by
  have hfail := h.fail
  obtain ⟨errors, events, rfl, herrors⟩ := h
  unfold Machine.assign
  cases source with
  | literal token => exact ⟨errors, events, rfl, herrors⟩
  | binary lhs op rhs =>
    dsimp only
    split
    · split
      · exact ⟨errors, events, rfl, herrors⟩
      · exact hfail _
    · exact ⟨errors, events, rfl, herrors⟩

/-- Both machines jump to the same place, or note the same error. -/
theorem jump (line : Nat) (label : String) : Alike (m.jump line label) (m'.jump line label) := by
  have hfail := h.fail
  obtain ⟨errors, events, rfl, herrors⟩ := h
  unfold Machine.jump
  dsimp only
  split
  · exact ⟨errors, _, rfl, herrors⟩
  · exact (hfail _).goOn _

/-- Both machines call the same function, or note the same error. -/
theorem call (settings : Settings) (line : Nat) (name : String) :
    Alike (m.call settings line name) (m'.call settings line name) := by
  have hfail := h.fail
  obtain ⟨errors, events, rfl, herrors⟩ := h
  unfold Machine.call
  dsimp only
  split
  · exact (hfail _).goOn _
  · split
    · exact (hfail _).goOn _
    · exact ⟨errors, events, rfl, herrors⟩

/-- An instruction goes the same way in both. -/
theorem execute (settings : Settings) (line index : Nat) (instruction : Instruction) :
    Alike (m.execute settings line index instruction) (m'.execute settings line index instruction) := by
  cases instruction with
  | gesture g => exact h.goOn _
  | delay ms => exact h.goOn _
  | set name source => exact (h.assign settings line name source).goOn _
  | goto label => exact h.jump line label
  | gotoIf condition label =>
    obtain ⟨holds, tested, tested', htest, htest', halike⟩ := h.test condition
    simp only [Machine.execute, htest, htest']
    split
    · exact halike.jump line label
    · exact halike.goOn _
  | find lookup => exact h.goOn _
  | call name => exact h.call settings line name
  | get name =>
    obtain ⟨errors, events, rfl, herrors⟩ := h
    simp only [Machine.execute]
    split <;> exact ⟨errors, _, rfl, herrors⟩
  | label name =>
    obtain ⟨errors, events, rfl, herrors⟩ := h
    simp only [Machine.execute]
    split <;> exact ⟨errors, _, rfl, herrors⟩
  | stop | log | overlay | logVariable =>
    obtain ⟨errors, events, rfl, herrors⟩ := h
    exact ⟨errors, _, rfl, herrors⟩

/-- Both machines count a command. -/
theorem counting (command : Command) : Alike (m.counting command) (m'.counting command) := by
  obtain ⟨errors, events, rfl, herrors⟩ := h
  exact ⟨errors, _, rfl, herrors⟩

/-- A command goes the same way in both. -/
theorem dispatch (settings : Settings) (index : Nat) (command : Command) :
    Alike (m.dispatch settings index command) (m'.dispatch settings index command) := by
  cases command with
  | leaf line instruction =>
    rw [dispatch_leaf, dispatch_leaf]
    exact (h.counting _).execute settings line index instruction
  | branch line condition thenBlock elseBlock =>
    obtain ⟨holds, tested, tested', htest, htest', halike⟩ := (h.counting _).test condition
    rw [dispatch_branch settings m htest, dispatch_branch settings m' htest']
    exact halike.enter settings _
  | loop | counted | function =>
    obtain ⟨errors, events, rfl, herrors⟩ := h
    exact ⟨errors, _, rfl, herrors⟩

/-- Both machines may leave a sequence. -/
theorem exitSequence (outer : List Frame) (flow : Flow) :
    Alike (m.exitSequence outer flow) (m'.exitSequence outer flow) := by
  obtain ⟨errors, events, rfl, herrors⟩ := h
  exact ⟨errors, events, rfl, herrors⟩

theorem exitLoop (outer : List Frame) (flow : Flow) :
    Alike (m.exitLoop outer flow) (m'.exitLoop outer flow) := by
  obtain ⟨errors, events, rfl, herrors⟩ := h
  exact ⟨errors, events, rfl, herrors⟩

/-- Both machines are in the middle of the same. -/
theorem frames : m'.frames = m.frames := by
  obtain ⟨errors, events, rfl, herrors⟩ := h
  rfl

/-- Both machines do the same next. -/
theorem control : m'.control = m.control := by
  obtain ⟨errors, events, rfl, herrors⟩ := h
  rfl

/-- Both machines have to end, or neither. -/
theorem isHalted (cancelled : Bool) : m'.isHalted cancelled = m.isHalted cancelled := by
  obtain ⟨errors, events, rfl, herrors⟩ := h
  rfl

/-- Both machines are over, or neither. -/
theorem isFinished : m'.isFinished = m.isFinished := by
  obtain ⟨errors, events, rfl, herrors⟩ := h
  rfl

/-- Both machines look at the same command. -/
theorem fetch (settings : Settings) (cancelled : Bool) :
    Alike (m.fetch settings cancelled) (m'.fetch settings cancelled) := by
  unfold Machine.fetch
  rw [h.frames, h.isHalted]
  split
  · split
    · exact h.exitSequence _ _
    · split
      · exact h.dispatch settings _ _
      · exact h.exitSequence _ _
  · exact h.goOn _

/-- Both machines go on with their loop, or leave it. -/
theorem again (settings : Settings) (cancelled : Bool) :
    Alike (m.again settings cancelled) (m'.again settings cancelled) := by
  unfold Machine.again
  rw [h.frames, h.isHalted]
  split
  next condition body outer _ =>
    split
    · exact h.exitLoop _ _
    · obtain ⟨holds, tested, tested', htest, htest', halike⟩ := h.test condition
      simp only [htest, htest']
      split
      · exact halike.enter settings body
      · exact halike.exitLoop _ _
  next =>
    split
    · exact h.exitLoop _ _
    · split
      · exact h.exitLoop _ _
      · obtain ⟨errors, events, rfl, herrors⟩ := h
        exact ⟨errors, events, rfl, herrors⟩
  next => exact h.goOn _

/-- Both machines hand a flow to the same frame. -/
theorem leave (flow : Flow) : Alike (m.leave flow) (m'.leave flow) := by
  obtain ⟨errors, events, rfl, herrors⟩ := h
  unfold Machine.leave
  dsimp only
  split
  · exact ⟨errors, events, rfl, herrors⟩
  · cases flow with
    | next => exact ⟨errors, events, rfl, herrors⟩
    | jump target =>
      dsimp only
      split
      · exact ⟨errors, events, rfl, herrors⟩
      · exact ⟨errors, events, rfl, herrors⟩
    | halt => exact ⟨errors, events, rfl, herrors⟩
  · cases flow <;> exact ⟨errors, events, rfl, herrors⟩
  · cases flow <;> exact ⟨errors, events, rfl, herrors⟩
  · exact ⟨errors, events, rfl, herrors⟩

/-- After a gesture two machines are alike, whatever came of it in each. -/
theorem performed (settings : Settings) (line : Nat) (g : Gesture Millis)
    (result result' : Except DeviceError Unit) :
    Alike (m.performed settings line g result) (m'.performed settings line g result') := by
  have hgesture (e : DeviceError) : (RunError.device line g.keyword e).isGestureFailure = true := by
    simpa [RunError.isGestureFailure] using g.keyword_mem
  have hpause {n n' : Machine} (halike : Alike n n') :
      Alike (if settings.settleDelay.val = 0 then n.next else n.goOn (.pause settings.settleDelay))
        (if settings.settleDelay.val = 0 then n'.next else n'.goOn (.pause settings.settleDelay)) := by
    split
    · exact halike.goOn _
    · exact halike.goOn _
  unfold Machine.performed
  cases result with
  | ok _ =>
    cases result' with
    | ok _ => exact hpause h
    | error e => exact hpause (h.fail_right (hgesture e))
  | error e =>
    cases result' with
    | ok _ => exact hpause (h.fail_left (hgesture e))
    | error e' => exact hpause ((h.fail_left (hgesture e)).fail_right (hgesture e'))

/-- The same answer to a search, or the same failure, leaves both alike. -/
theorem searched (line : Nat) (lookup : ImageLookup) (result : Except DeviceError ImageMatch) :
    Alike (m.searched line lookup result) (m'.searched line lookup result) := by
  obtain ⟨errors, events, rfl, herrors⟩ := h
  unfold Machine.searched
  cases result with
  | ok answer => exact ⟨errors, _, rfl, herrors⟩
  | error e => exact ⟨errors.push _, _, rfl, besideGestures_push herrors _⟩

/-- Both machines report the same but for the failures of gestures. -/
theorem report (cancelled : Bool) :
    (m'.report cancelled).outcome = (m.report cancelled).outcome ∧
      (m'.report cancelled).steps = (m.report cancelled).steps ∧
      (m'.report cancelled).values = (m.report cancelled).values ∧
      besideGestures (m'.report cancelled).errors = besideGestures (m.report cancelled).errors := by
  obtain ⟨errors, events, rfl, herrors⟩ := h
  exact ⟨rfl, rfl, rfl, herrors⟩

end Alike

end Machine

/-- Two turns with the same calls that leave machines alike and do the same to their runs. -/
structure Turn.Alike {σ τ : Type} (turn : Turn (σ × List DeviceCall))
    (other : Turn (τ × List DeviceCall)) : Prop where
  machine : turn.machine.Alike other.machine
  calls : other.device.2 = turn.device.2
  cancelled : other.cancelled = turn.cancelled
  status : other.signal.status = turn.signal.status

namespace Machine

variable {σ τ : Type} {m m' : Machine} {device : σ × List DeviceCall} {other : τ × List DeviceCall}

/-- After a call whose reply may differ in success only, both turns go on or both break down, and
resume alike. -/
theorem Alike.afterCall {α : Type} (h : Alike m m') (hcalls : other.2 = device.2) (cancelled : Bool)
    {answer answer' : Answer α} (hcancels : answer'.cancels = answer.cancels)
    (hbreak : answer.reply.breakdown? = answer'.reply.breakdown?)
    {resume resume' : Except DeviceError α → Machine}
    (hresume : ∀ result result', answer.reply.result? = some result →
      answer'.reply.result? = some result' → Alike (resume result) (resume' result')) :
    (m.afterCall device cancelled answer resume).Alike (m'.afterCall other cancelled answer' resume') := by
  have hcancelled : (cancelled || answer'.cancels) = (cancelled || answer.cancels) := by rw [hcancels]
  have hsleep (sleep : Option Nat) : (sleep.elim Signal.proceed Signal.sleep).status = .running := by
    cases sleep <;> rfl
  have hstatus := (hsleep answer'.sleep).trans (hsleep answer.sleep).symm
  unfold Machine.afterCall
  cases hreply : answer.reply with
  | crash o =>
    rw [hreply] at hbreak
    cases hreply' : answer'.reply with
    | crash o' =>
      rw [hreply'] at hbreak
      cases hbreak
      exact ⟨h, hcalls, hcancelled, rfl⟩
    | ok _ | error _ =>
      rw [hreply'] at hbreak
      cases hbreak
  | ok _ | error _ =>
    rw [hreply] at hbreak hresume
    cases hreply' : answer'.reply with
    | crash o' =>
      rw [hreply'] at hbreak
      cases hbreak
    | ok _ | error _ =>
      rw [hreply'] at hresume
      exact ⟨hresume _ _ rfl rfl, hcalls, hcancelled, hstatus⟩

/-- Machines that are alike stay so in a turn with devices that agree. -/
theorem Alike.turn (h : Alike m m') (settings : Settings) {d : Device σ} {e : Device τ}
    (hagree : d.AgreesAt device.1 e other.1) (hcalls : other.2 = device.2) (cancelAt : Option Nat)
    (cancelled : Bool) :
    (m.turn settings (d.logged cancelAt) device cancelled).Alike
      (m'.turn settings (e.logged cancelAt) other cancelled) := by
  have hcut : (cancelAt == some (other.2.length + 1)) = (cancelAt == some (device.2.length + 1)) := by
    rw [hcalls]
  have hadd (call : DeviceCall) : other.2 ++ [call] = device.2 ++ [call] := by rw [hcalls]
  unfold Machine.turn
  rw [h.control]
  cases m.control with
  | fetch => exact ⟨h.fetch settings cancelled, hcalls, rfl, rfl⟩
  | again => exact ⟨h.again settings cancelled, hcalls, rfl, rfl⟩
  | leave flow =>
    dsimp only
    rw [h.isFinished]
    split
    · exact ⟨h, hcalls, rfl, rfl⟩
    · exact ⟨h.leave flow, hcalls, rfl, rfl⟩
  | perform line g =>
    refine h.afterCall (hadd (.gesture g)) cancelled ?_ ?_ ?_
    · exact hcut
    · exact hagree.perform g
    · intro result result' _ _
      exact h.performed settings line g result result'
  | search line lookup =>
    -- Other than for a gesture the answers must be equal, as they are written to variables.
    have hsearch := hagree.search lookup.path
    refine h.afterCall (hadd (.search lookup.path)) cancelled ?_ ?_ ?_
    · exact hcut
    · exact congrArg Reply.breakdown? hsearch
    · intro result result' hresult hresult'
      have hsame := hresult.symm.trans ((congrArg Reply.result? hsearch).trans hresult')
      rw [Option.some.inj hsame]
      exact h.searched line lookup result'
  | tell call =>
    refine ⟨(h.noted _ _).goOn _, hadd (.tell call), ?_, rfl⟩
    exact congrArg (cancelled || ·) hcut
  | pause duration => exact ⟨h.goOn _, hcalls, rfl, rfl⟩
  | yield => exact ⟨h.goOn _, hcalls, rfl, rfl⟩

/-- What a call does to a device does not depend on its being listed. -/
theorem device_turn_of_call (settings : Settings) (d : Device σ) (cancelAt : Option Nat)
    (device : σ × List DeviceCall) (cancelled : Bool) {call : DeviceCall}
    (hcall : m.control.call? = some call) :
    (m.turn settings (d.logged cancelAt) device cancelled).device.1 = d.react device.1 call := by
  unfold Machine.turn
  cases hcontrol : m.control with
  | perform line g =>
    rw [hcontrol] at hcall
    cases hcall
    exact congrArg Prod.fst (device_afterCall m _ _ _ _)
  | search line lookup =>
    rw [hcontrol] at hcall
    cases hcall
    exact congrArg Prod.fst (device_afterCall m _ _ _ _)
  | tell told =>
    rw [hcontrol] at hcall
    cases hcall
    rfl
  | _ => simp [hcontrol, Control.call?] at hcall

end Machine

namespace Run

variable {σ τ : Type} (settings : Settings)

/-- The calls of a run determine the state of its device. -/
theorem device_step {d : Device σ} {device : σ} {run : Run (σ × List DeviceCall)}
    (hdevice : run.device.1 = d.after device run.calls) (cancelAt : Option Nat) :
    (run.step settings (d.logged cancelAt)).device.1 =
      d.after device (run.step settings (d.logged cancelAt)).calls := by
  by_cases hrunning : run.status = .running
  · cases hcall : run.machine.control.call? with
    | none =>
      rw [calls_step_of_noCall settings d hcall, ← hdevice, step_of_running _ _ hrunning]
      exact congrArg Prod.fst (Machine.turn_of_noCall settings _ hcall _ (d.logged none) _ _).2.1
    | some call =>
      have hreact := Machine.device_turn_of_call settings d cancelAt run.device run.cancelled hcall
      rw [calls_step_of_call settings d hrunning hcall, step_of_running _ _ hrunning]
      refine hreact.trans ?_
      rw [hdevice, Device.after, Device.after, List.foldl_append]
      rfl
  · rw [step_of_over _ _ hrunning]
    exact hdevice

/-- After any turns a device is as its calls have left it. -/
theorem device_steps (d : Device σ) (commands : List Command) (device : σ) (cancelled : Bool)
    (cancelAt : Option Nat) (k : Nat) :
    let run := (start settings commands (device, []) cancelled).steps settings (d.logged cancelAt) k
    run.device.1 = d.after device run.calls := by
  induction k with
  | zero => rfl
  | succ k ih =>
    rw [steps_succ]
    exact device_step settings ih cancelAt

/-- Two runs with the same calls whose machines are alike. -/
structure Alike (run : Run (σ × List DeviceCall)) (other : Run (τ × List DeviceCall)) : Prop where
  machine : run.machine.Alike other.machine
  calls : other.calls = run.calls
  cancelled : other.cancelled = run.cancelled
  status : other.status = run.status

/-- One more turn keeps both runs alike if their devices agree at this moment. -/
theorem Alike.step {run : Run (σ × List DeviceCall)} {other : Run (τ × List DeviceCall)}
    (h : Alike run other) {d : Device σ} {e : Device τ} (hagree : d.AgreesAt run.device.1 e other.device.1)
    (cancelAt : Option Nat) :
    Alike (run.step settings (d.logged cancelAt)) (other.step settings (e.logged cancelAt)) := by
  by_cases hrunning : run.status = .running
  · rw [step_of_running _ _ hrunning, step_of_running _ _ (h.status.trans hrunning), h.cancelled]
    obtain ⟨hmachine, hcalls, hcancelled, hstatus⟩ :=
      h.machine.turn settings hagree h.calls cancelAt run.cancelled
    exact ⟨hmachine, hcalls, hcancelled, hstatus⟩
  · have hover : other.status ≠ .running := fun hother => hrunning (h.status.symm.trans hother)
    rw [step_of_over _ _ hrunning, step_of_over _ _ hover]
    exact h

/-- Runs whose devices always agree go on in lockstep. -/
theorem Alike.steps {d : Device σ} {device : σ} {e : Device τ} {other : τ}
    (hagree : ∀ calls, d.AgreesAt (d.after device calls) e (e.after other calls))
    (commands : List Command) (cancelled : Bool) (cancelAt : Option Nat) (k : Nat) :
    Alike ((start settings commands (device, []) cancelled).steps settings (d.logged cancelAt) k)
      ((start settings commands (other, []) cancelled).steps settings (e.logged cancelAt) k) := by
  induction k with
  | zero => exact ⟨.refl _, rfl, rfl, rfl⟩
  | succ k ih =>
    have hdevice := device_steps settings d commands device cancelled cancelAt k
    have hother := device_steps settings e commands other cancelled cancelAt k
    rw [steps_succ, steps_succ]
    refine ih.step settings ?_ cancelAt
    rw [hdevice, hother, ih.calls]
    exact hagree _

/-- Two devices that give the same answers to searches but may differ in which gestures succeed make
no difference to a run, cancelled or not, beyond the failures of gestures in its report: it makes the
same calls, and it ends in the same way or not at all. -/
theorem gesture_failures_invisible {d : Device σ} {device : σ} {e : Device τ} {other : τ}
    (hagree : ∀ calls, d.AgreesAt (d.after device calls) e (e.after other calls))
    (commands : List Command) (cancelled : Bool) (cancelAt : Option Nat) :
    let run k := (start settings commands (device, []) cancelled).steps settings (d.logged cancelAt) k
    let run' k := (start settings commands (other, []) cancelled).steps settings (e.logged cancelAt) k
    (∀ k, (run' k).calls = (run k).calls ∧ (run' k).status = (run k).status ∧
      (run' k).report.outcome = (run k).report.outcome ∧
      (run' k).report.steps = (run k).report.steps ∧
      (run' k).report.values = (run k).report.values ∧
      besideGestures (run' k).report.errors = besideGestures (run k).report.errors) ∧
    ((∃ k, (run' k).status = .finished) ↔ ∃ k, (run k).status = .finished) := by
  intro run run'
  have halike (k : Nat) : Alike (run k) (run' k) :=
    Alike.steps settings hagree commands cancelled cancelAt k
  constructor
  · intro k
    refine ⟨(halike k).calls, (halike k).status, ?_⟩
    rw [Run.report, Run.report, (halike k).cancelled]
    exact (halike k).machine.report (run k).cancelled
  · constructor
    · rintro ⟨k, hfinished⟩
      exact ⟨k, (halike k).status.symm.trans hfinished⟩
    · rintro ⟨k, hfinished⟩
      exact ⟨k, (halike k).status.trans hfinished⟩

/-- A device that answers every gesture in one way and finds no image. -/
def constantDevice (reply : Reply Unit) : Device Unit where
  perform device _ := (⟨reply, none, false⟩, device)
  search device _ := (⟨.ok ImageMatch.notFound, none, false⟩, device)
  tell device _ := ([], false, device)

/-- A script that taps three times and logs the number of taps. -/
def threeTaps : List Command :=
  [.counted 1 ⟨3, by decide, by decide⟩ (some "n")
      [.leaf 2 (.gesture (.tap ⟨⟨5, by decide, by decide⟩, ⟨7, by decide, by decide⟩⟩))],
    .leaf 4 (.logVariable "n")]

/-- The script makes the same calls whether or not the taps fail; only the report shows that they
do. -/
theorem threeTaps_failing :
    let run reply := (start Settings.default threeTaps ((), []) false).steps Settings.default
      ((constantDevice reply).logged none) 32
    (run (.ok ())).status = .finished ∧ (run (.error .timeout)).status = .finished ∧
      (run (.ok ())).calls = (run (.error .timeout)).calls ∧
      (run (.ok ())).report.errors = [] ∧
      (run (.error .timeout)).report.errors = List.replicate 3 (.device 2 "click" .timeout) := by
  intro run
  have hagree (calls : List DeviceCall) : (constantDevice (.ok ())).AgreesAt
      ((constantDevice (.ok ())).after () calls) (constantDevice (.error .timeout))
      ((constantDevice (.error .timeout)).after () calls) := ⟨fun _ => rfl, fun _ => rfl⟩
  obtain ⟨hsame, _⟩ := gesture_failures_invisible Settings.default hagree threeTaps false none
  obtain ⟨hcalls, hstatus, _⟩ := hsame 32
  have hfinished : (run (.ok ())).status = .finished := by decide
  exact ⟨hfinished, hstatus.trans hfinished, hcalls.symm, by decide, by decide⟩

end Run

end TouchScript
