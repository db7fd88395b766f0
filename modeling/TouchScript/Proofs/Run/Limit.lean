import TouchScript.Proofs.Machine.Ledger
import TouchScript.Proofs.Run.Calls
import TouchScript.Run.Rehearsal

namespace TouchScript

/-- The settings with another limit on nested calls. -/
abbrev Settings.limiting (settings : Settings) (limit : CallDepth) : Settings :=
  { settings with maxCallDepth := limit }

namespace Machine

variable (settings : Settings) {limit : CallDepth} (m : Machine)

/-- A call has just been refused because of the limit. This is on record for the rest of the run. -/
def Refuses (m after : Machine) : Prop :=
  ∃ line name, after.errors = m.errors.push (.callDepthExceeded line name settings.maxCallDepth)

/-- A call comes to the same under a higher limit, unless the lower one refuses it. -/
theorem call_limiting (hle : settings.maxCallDepth.val ≤ limit.val) (line : Nat) (name : String) :
    m.call (settings.limiting limit) line name = m.call settings line name ∨
      m.Refuses settings (m.call settings line name) := by
  unfold call
  cases m.context.functions.get? name with
  | none => exact .inl rfl
  | some body =>
    by_cases hdepth : settings.maxCallDepth.val ≤ m.callDepth
    · refine .inr ⟨line, name, ?_⟩
      simp only [hdepth, if_true]
      rfl
    · have hraised : ¬ (settings.limiting limit).maxCallDepth.val ≤ m.callDepth :=
        fun h => hdepth (Int.le_trans hle h)
      simp only [hdepth, hraised, if_false]
      exact .inl rfl

/-- So does every instruction, as only a call looks at the limit. -/
theorem execute_limiting (hle : settings.maxCallDepth.val ≤ limit.val) (line index : Nat)
    (instruction : Instruction) :
    m.execute (settings.limiting limit) line index instruction =
        m.execute settings line index instruction ∨
      m.Refuses settings (m.execute settings line index instruction) := by
  cases instruction with
  | call name => exact m.call_limiting settings hle line name
  | _ => exact .inl rfl

/-- So does every command. -/
theorem dispatch_limiting (hle : settings.maxCallDepth.val ≤ limit.val) (index : Nat)
    (command : Command) :
    m.dispatch (settings.limiting limit) index command = m.dispatch settings index command ∨
      m.Refuses settings (m.dispatch settings index command) := by
  cases command with
  | leaf line instruction =>
    rw [dispatch_leaf, dispatch_leaf]
    exact (m.counting _).execute_limiting settings hle line index instruction
  | _ => exact .inl rfl

/-- Looking at the current command comes to the same, unless the lower limit refuses a call. -/
theorem fetch_limiting (hle : settings.maxCallDepth.val ≤ limit.val) (cancelled : Bool) :
    m.fetch (settings.limiting limit) cancelled = m.fetch settings cancelled ∨
      m.Refuses settings (m.fetch settings cancelled) := by
  unfold fetch
  split
  · split
    · exact .inl rfl
    · split
      · exact m.dispatch_limiting settings hle _ _
      · exact .inl rfl
  · exact .inl rfl

/-- With a higher limit a machine makes the same turn, unless the lower limit refuses a call. -/
theorem turn_limiting {σ : Type} (hle : settings.maxCallDepth.val ≤ limit.val) (d : Device σ)
    (device : σ) (cancelled : Bool) :
    m.turn (settings.limiting limit) d device cancelled = m.turn settings d device cancelled ∨
      m.Refuses settings (m.turn settings d device cancelled).machine := by
  unfold turn
  cases m.control with
  | fetch =>
    refine (m.fetch_limiting settings hle cancelled).imp_left fun hsame => ?_
    simp only [hsame]
  | _ => exact .inl rfl

end Machine

namespace Run

variable {σ : Type} (settings : Settings) (d : Device σ) (commands : List Command) (device : σ)
  (cancelled : Bool) {low high : CallDepth}

/-- A step comes to the same, unless the lower limit refuses a call in it. -/
theorem step_limiting {limit : CallDepth} (hle : settings.maxCallDepth.val ≤ limit.val) (run : Run σ) :
    run.step (settings.limiting limit) d = run.step settings d ∨
      run.machine.Refuses settings (run.step settings d).machine := by
  by_cases hrunning : run.status = .running
  · rw [step_of_running _ _ hrunning, step_of_running _ _ hrunning]
    refine (run.machine.turn_limiting settings hle d run.device run.cancelled).imp_left fun hsame => ?_
    simp only [hsame]
  · rw [step_of_over _ _ hrunning, step_of_over _ _ hrunning]
    exact .inl rfl

/-- The run of a script after some turns, under a limit on nested calls. -/
def limited (limit : CallDepth) (k : Nat) : Run σ :=
  (start (settings.limiting limit) commands device cancelled).steps (settings.limiting limit) d k

theorem limited_succ (limit : CallDepth) (k : Nat) :
    limited settings d commands device cancelled limit (k + 1) =
      (limited settings d commands device cancelled limit k).step (settings.limiting limit) d :=
  steps_succ _ _ _ _

/-- Until the lower limit refuses a call, the runs under both limits are the same. -/
theorem limited_eq (hle : low.val ≤ high.val) (k : Nat) :
    limited settings d commands device cancelled high k =
        limited settings d commands device cancelled low k ∨
      ∃ line name, .callDepthExceeded line name low ∈
        (limited settings d commands device cancelled low k).report.errors := by
  induction k with
  | zero => exact .inl rfl
  | succ k ih =>
    have hgrow := (course (settings.limiting low) d commands device cancelled).errors_grow k 1
    rcases ih with hsame | ⟨line, name, hrefused⟩
    · rw [limited_succ, limited_succ, hsame]
      refine (step_limiting (settings.limiting low) d hle _).imp_right ?_
      rintro ⟨line, name, herrors⟩
      refine ⟨line, name, ?_⟩
      simp [report, Machine.report, herrors]
    · exact .inr ⟨line, name, hgrow.subset hrefused⟩

/-- A run in which the limit refuses no call is the same under every higher limit: it is over at the
same time or not at all, with the same report and the same calls. -/
theorem higher_limit_agrees (hle : low.val ≤ high.val) (cancelAt : Option Nat) (k : Nat)
    (hallowed : ∀ line name limit, .callDepthExceeded line name limit ∉
      (limited settings (d.logged cancelAt) commands (device, []) cancelled low k).report.errors) :
    let capped := limited settings (d.logged cancelAt) commands (device, []) cancelled low k
    let raised := limited settings (d.logged cancelAt) commands (device, []) cancelled high k
    raised.status = capped.status ∧ raised.report = capped.report ∧ raised.calls = capped.calls ∧
      raised.elapsed = capped.elapsed := by
  intro capped raised
  rcases limited_eq settings (d.logged cancelAt) commands (device, []) cancelled hle k with
    hsame | ⟨line, name, hrefused⟩
  · have hruns : raised = capped := hsame
    rw [hruns]
    exact ⟨rfl, rfl, rfl, rfl⟩
  · exact absurd hrefused (hallowed line name low)

/-- A script in which one function calls another. -/
def callsInside : List Command :=
  [.function 1 "inner" [.leaf 2 (.logVariable "x")], .function 4 "outer" [.leaf 5 (.call "inner")],
    .leaf 7 (.call "outer")]

/-- Two nested calls are enough for the script, a limit of three changes nothing, and a limit of one
refuses the inner call. -/
theorem callsInside_agrees :
    let run limit := limited Settings.default ((Rehearsal.device).logged none) callsInside
      (.plain (.new [] [] false), []) false limit 20
    let one : CallDepth := ⟨1, by decide, by decide⟩
    let two : CallDepth := ⟨2, by decide, by decide⟩
    let three : CallDepth := ⟨3, by decide, by decide⟩
    (run one).report.errors = [.callDepthExceeded 5 "inner" one] ∧
      (run two).status = .finished ∧ (run two).report.errors = [] ∧
      (run three).status = .finished ∧ (run three).report = (run two).report ∧
      (run three).calls = [.tell (.namedValue "x" "0")] := by
  intro run one two three
  have hrefused : (run one).report.errors = [.callDepthExceeded 5 "inner" one] := by decide
  have hfinished : (run two).status = .finished := by decide
  have herrors : (run two).report.errors = [] := by decide
  have hcalls : (run two).calls = [.tell (.namedValue "x" "0")] := by decide
  have hle : two.val ≤ three.val := by decide
  obtain ⟨hstatus, hreport, hsame, _⟩ := higher_limit_agrees Settings.default Rehearsal.device
    callsInside (.plain (.new [] [] false)) false hle none 20 (by
      intro line name limit hmem
      exact absurd (herrors ▸ hmem) List.not_mem_nil)
  exact ⟨hrefused, hfinished, herrors, hstatus.trans hfinished, hreport, hsame.trans hcalls⟩

end Run

end TouchScript
