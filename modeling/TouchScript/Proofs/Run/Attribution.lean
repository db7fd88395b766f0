import TouchScript.Proofs.Machine.Parts
import TouchScript.Proofs.Run.Leaves
import TouchScript.Proofs.Run.Outcome

namespace TouchScript

/-- A list that grows by one element at a time and has grown by one at most is the same as before, or it
has one element more. -/
theorem eq_or_append_of_grows {α : Type} {f : Nat → List α} {P : Nat → α → Prop}
    (hgrows : ∀ j, f (j + 1) = f j ∨ ∃ a, P j a ∧ f (j + 1) = f j ++ [a]) {n k : Nat} (hle : n ≤ k)
    (hbound : (f k).length ≤ (f n).length + 1) :
    f k = f n ∨ ∃ j a, n ≤ j ∧ j < k ∧ P j a ∧ f k = f n ++ [a] := by
  induction hle with
  | refl => exact .inl rfl
  | @step k hle ih =>
    rcases hgrows k with hsame | ⟨a, ha, hadd⟩
    · rw [hsame] at hbound ⊢
      rcases ih hbound with hnone | ⟨j, b, hlow, hhigh, hb, hone⟩
      · exact .inl hnone
      · exact .inr ⟨j, b, hlow, Nat.lt_succ_of_lt hhigh, hb, hone⟩
    · rw [hadd, List.length_append, List.length_singleton] at hbound
      rcases ih (by omega) with hnone | ⟨j, b, _, _, _, hone⟩
      · exact .inr ⟨k, a, hle, Nat.lt_succ_self k, ha, by rw [hadd, hnone]⟩
      · rw [hone, List.length_append, List.length_singleton] at hbound
        omega

/-- The command that has been dispatched last before a turn. -/
def Course.Latest {settings : Settings} {commands : List Command} (c : Course settings commands) (k : Nat)
    (command : Command) : Prop :=
  ∃ n, n < k ∧ c.Dispatches n command ∧ ∀ i, n < i → i < k → ∀ other, ¬ c.Dispatches i other

/-- Only one command was dispatched last. -/
theorem Course.Latest.unique {settings : Settings} {commands : List Command} {c : Course settings commands}
    {k : Nat} {command other : Command} (h : c.Latest k command) (hother : c.Latest k other) :
    command = other := by
  obtain ⟨n, hn, hdispatch, hlast⟩ := h
  obtain ⟨j, hj, hdispatch', hlast'⟩ := hother
  rcases Nat.lt_trichotomy n j with hlt | rfl | hlt
  · exact absurd hdispatch' (hlast j hlt hj other)
  · exact hdispatch.unique hdispatch'
  · exact absurd hdispatch (hlast' n hlt hn command)

/-- A device that lists its calls, and answers them as before. -/
def Device.listed {σ : Type} (d : Device σ) : Device (σ × List DeviceCall) where
  perform state g :=
    let (answer, device) := d.perform state.1 g
    (answer, device, state.2 ++ [.gesture g])
  search state path :=
    let (answer, device) := d.search state.1 path
    (answer, device, state.2 ++ [.search path])
  tell state call :=
    let (events, cancels, device) := d.tell state.1 call
    (events, cancels, device, state.2 ++ [.tell call])

/-- A listing device answers as before, and it lists the call of the turn. -/
theorem Machine.turn_listed {σ : Type} (settings : Settings) (m : Machine) (d : Device σ)
    (state : σ × List DeviceCall) (cancelled : Bool) :
    m.turn settings d.listed state cancelled =
      let plain := m.turn settings d state.1 cancelled
      ⟨plain.machine, (plain.device, state.2 ++ m.control.call?.toList), plain.cancelled, plain.signal⟩ := by
  unfold turn
  cases m.control with
  | perform line g =>
    simp only [Device.listed, afterCall]
    cases (d.perform state.1 g).1.reply <;> rfl
  | search line lookup =>
    simp only [Device.listed, afterCall]
    cases (d.search state.1 lookup.path).1.reply <;> rfl
  | tell call => rfl
  | leave flow =>
    by_cases hfinished : m.isFinished = true <;> simp [hfinished, Control.call?]
  | _ => simp [Control.call?]

namespace Run

variable {σ : Type}

/-- The run that keeps no list of its calls. -/
def unlisted (run : Run (σ × List DeviceCall)) : Run σ :=
  { run with device := run.device.1 }

/-- The call that a run makes next, if it makes one. -/
def pending (run : Run σ) : List DeviceCall :=
  if run.status = .running then run.machine.control.call?.toList else []

/-- A run that goes on makes the call next that its machine waits for. -/
theorem pending_of_running {run : Run σ} (hrunning : run.status = .running) :
    run.pending = run.machine.control.call?.toList :=
  if_pos hrunning

/-- A run that is over makes no call. -/
theorem pending_of_over {run : Run σ} (hover : run.status ≠ .running) : run.pending = [] :=
  if_neg hover

/-- Who is about to call goes on, and waits for the call. -/
theorem running_of_pending {run : Run σ} {call : DeviceCall} (hcall : call ∈ run.pending) :
    run.status = .running ∧ run.machine.control.call? = some call := by
  by_cases hrunning : run.status = .running
  · rw [pending_of_running hrunning, Option.mem_toList] at hcall
    exact ⟨hrunning, hcall⟩
  · rw [pending_of_over hrunning] at hcall
    cases hcall

/-- A run makes one call at a time. -/
theorem pending_cases (run : Run σ) : run.pending = [] ∨ ∃ call, run.pending = [call] := by
  unfold pending
  split
  · cases run.machine.control.call? with
    | none => exact .inl rfl
    | some call => exact .inr ⟨call, rfl⟩
  · exact .inl rfl

/-- So at most one is pending. -/
theorem length_pending_le (run : Run σ) : run.pending.length ≤ 1 := by
  rcases run.pending_cases with hnone | ⟨call, hone⟩
  · simp [hnone]
  · simp [hone]

/-- Listing the calls of a run changes nothing else. -/
theorem step_listed (settings : Settings) (d : Device σ) (run : Run (σ × List DeviceCall)) :
    (run.step settings d.listed).unlisted = run.unlisted.step settings d ∧
      (run.step settings d.listed).calls = run.calls ++ run.unlisted.pending := by
  by_cases hrunning : run.status = .running
  · have hplain : run.unlisted.status = .running := hrunning
    rw [step_of_running settings _ hrunning, step_of_running settings _ hplain, pending_of_running hplain]
    simp only [Machine.turn_listed]
    exact ⟨rfl, rfl⟩
  · have hplain : run.unlisted.status ≠ .running := hrunning
    rw [step_of_over settings _ hrunning, step_of_over settings _ hplain, pending_of_over hplain]
    exact ⟨rfl, (List.append_nil _).symm⟩

variable (settings : Settings) (d : Device σ) (commands : List Command) (device : σ) (cancelled : Bool)

/-- The calls that the run of a script has made to its device. -/
def callsMade (k : Nat) : List DeviceCall :=
  (reached settings d.listed commands (device, []) cancelled k).calls

/-- To list the calls does not change a run. -/
theorem reached_listed (k : Nat) :
    (reached settings d.listed commands (device, []) cancelled k).unlisted =
      reached settings d commands device cancelled k := by
  induction k with
  | zero => rfl
  | succ k ih => rw [reached_succ, reached_succ, ← ih, (step_listed settings d _).1]

/-- A step makes the call that is pending. -/
theorem callsMade_succ (k : Nat) : callsMade settings d commands device cancelled (k + 1) =
    callsMade settings d commands device cancelled k ++
      (reached settings d commands device cancelled k).pending := by
  unfold callsMade
  rw [reached_succ, (step_listed settings d _).2, reached_listed]

variable {settings d commands device cancelled}

/-- A pending call belongs to the command that has been dispatched just before. -/
theorem dispatches_of_pending {k : Nat} {call : DeviceCall}
    (hcall : call ∈ (reached settings d commands device cancelled k).pending) :
    ∃ j command, k = j + 1 ∧ (course settings d commands device cancelled).Dispatches j command ∧
      command.Awaits (reached settings d commands device cancelled k).machine.control ∧
      command.Makes call := by
  obtain ⟨hrunning, hcontrol⟩ := running_of_pending hcall
  cases k with
  | zero => cases hcontrol
  | succ j =>
    have hnext := reached_succ settings d commands device cancelled j
    have hbefore : (reached settings d commands device cancelled j).status = .running := by
      refine Decidable.byContradiction fun hover => ?_
      rw [hnext, step_of_over settings d hover] at hrunning
      exact hover hrunning
    rw [step_of_running settings d hbefore] at hnext
    obtain ⟨scope, sequence, index, outer, command, hfetch, hframes, hcommand, hdispatch⟩ :=
      Machine.dispatching_turn settings (reached settings d commands device cancelled j).machine d _ _
        (by rw [hnext] at hrunning; exact hrunning) (by rw [hnext] at hcontrol; simp [hcontrol])
    have hmachine := (congrArg Run.machine hnext).trans hdispatch
    have hawaits : command.Awaits (reached settings d commands device cancelled (j + 1)).machine.control := by
      rw [hmachine] at hcontrol ⊢
      exact Machine.awaits_dispatch settings _ (by simp [hcontrol])
    exact ⟨j, command, rfl, ⟨hfetch, scope, sequence, index, outer, hframes, hcommand, hmachine⟩, hawaits,
      _, hawaits, hcontrol⟩

/-- A turn that dispatches a command makes no call. -/
theorem pending_of_dispatches {k : Nat} {command : Command}
    (h : (course settings d commands device cancelled).Dispatches k command) :
    (reached settings d commands device cancelled k).pending = [] := by
  have hfetch : (reached settings d commands device cancelled k).machine.control = .fetch := h.1
  rw [pending, hfetch]
  exact ite_self []

variable (settings d commands device cancelled)

/-- An error that a turn adds goes back to the command that was dispatched last. -/
theorem errors_reached_succ (k : Nat) :
    (reached settings d commands device cancelled (k + 1)).report.errors =
        (reached settings d commands device cancelled k).report.errors ∨
      ∃ command e, (course settings d commands device cancelled).Latest (k + 1) command ∧
        command.Leaves settings e ∧
        (reached settings d commands device cancelled (k + 1)).report.errors =
          (reached settings d commands device cancelled k).report.errors ++ [e] := by
  suffices hmachine : (reached settings d commands device cancelled (k + 1)).machine.errors =
        (reached settings d commands device cancelled k).machine.errors ∨
      ∃ command e, (course settings d commands device cancelled).Latest (k + 1) command ∧
        command.Leaves settings e ∧
        (reached settings d commands device cancelled (k + 1)).machine.errors =
          (reached settings d commands device cancelled k).machine.errors.push e by
    rcases hmachine with hsame | ⟨command, e, hlatest, he, hadd⟩
    · exact .inl (congrArg Array.toList hsame)
    · exact .inr ⟨command, e, hlatest, he, (congrArg Array.toList hadd).trans Array.toList_push⟩
  rcases dispatches_or_carriesOn settings d commands device cancelled k with
    ⟨_, _, command, hdispatch⟩ | hcarries
  · have hlatest : (course settings d commands device cancelled).Latest (k + 1) command :=
      ⟨k, Nat.lt_succ_self k, hdispatch, fun i hlow hhigh => absurd hhigh (by omega)⟩
    obtain ⟨_, scope, sequence, index, outer, _, _, hnext⟩ := hdispatch
    have hmachine : (reached settings d commands device cancelled (k + 1)).machine =
        (reached settings d commands device cancelled k).machine.dispatch settings index command := hnext
    rw [hmachine]
    refine (Machine.errors_dispatch settings _ index command).imp_right ?_
    rintro ⟨e, he, hadd⟩
    exact ⟨command, e, hlatest, he, hadd⟩
  · -- A turn that dispatches nothing leaves an error only for the call that it makes.
    by_cases hrunning : (reached settings d commands device cancelled k).status = .running
    · cases hcall : (reached settings d commands device cancelled k).machine.control.call? with
      | none => exact .inl (hcarries.errors_eq hcall)
      | some call =>
        have hpending : call ∈ (reached settings d commands device cancelled k).pending := by
          rw [pending_of_running hrunning, hcall]
          exact List.mem_singleton_self call
        obtain ⟨j, command, rfl, hdispatch, hawaits, _⟩ := dispatches_of_pending hpending
        -- Nothing has been dispatched since the command that makes the call.
        have hlatest : (course settings d commands device cancelled).Latest (j + 1 + 1) command := by
          refine ⟨j, by omega, hdispatch, fun i hlow hhigh other hother => ?_⟩
          obtain rfl : i = j + 1 := by omega
          exact hother.not_carriesOn hcarries
        rw [reached_succ _ _ _ _ _ (j + 1), step_of_running settings d hrunning]
        refine (Machine.errors_turn_of_awaits settings _ hawaits d _ _).imp_right ?_
        rintro ⟨e, he, hadd⟩
        exact ⟨command, e, hlatest, he, hadd⟩
    · rw [reached_succ, step_of_over settings d hrunning]
      exact .inl rfl

/-- For every call that is made or pending a command has been counted. -/
theorem callsMade_le_steps (n more : Nat) :
    let run := reached settings d commands device cancelled
    let calls := callsMade settings d commands device cancelled
    (calls (n + more)).length + (run (n + more)).pending.length + (run n).report.steps ≤
      (calls n).length + (run n).pending.length + (run (n + more)).report.steps := by
  intro run calls
  induction more with
  | zero => exact Nat.le_refl _
  | succ more ih =>
    have hcalls : (calls (n + more + 1)).length =
        (calls (n + more)).length + (run (n + more)).pending.length := by
      simp only [calls, run, callsMade_succ, List.length_append]
    rw [← Nat.add_assoc, hcalls]
    rcases dispatches_or_carriesOn settings d commands device cancelled (n + more) with
      ⟨_, _, command, hdispatch⟩ | hcarries
    · have hsteps : (run (n + more + 1)).report.steps = (run (n + more)).report.steps + 1 :=
        hdispatch.performs.steps
      have hpending := length_pending_le (run (n + more + 1))
      omega
    · have hsteps : (run (n + more + 1)).report.steps = (run (n + more)).report.steps := hcarries.steps
      have hpending : (run (n + more + 1)).pending = [] := by
        refine List.eq_nil_iff_forall_not_mem.mpr fun call hcall => ?_
        obtain ⟨j, command, hj, hdispatch, _⟩ := dispatches_of_pending hcall
        cases hj
        exact hdispatch.not_carriesOn hcarries
      rw [hpending, hsteps, List.length_nil]
      omega

variable {settings d commands device cancelled}

/-- Until the next command is dispatched, the command that was dispatched last stays the same. -/
theorem latest_unique {n k : Nat} {command : Command}
    (h : (course settings d commands device cancelled).Dispatches n command)
    (hnone : ∀ i, n < i → i < k → ∀ other, ¬ (course settings d commands device cancelled).Dispatches i other)
    {j : Nat} (hlow : n ≤ j) (hhigh : j < k) {other : Command}
    (hlatest : (course settings d commands device cancelled).Latest (j + 1) other) : other = command :=
  hlatest.unique ⟨n, by omega, h, fun i hbehind hless => hnone i hbehind (by omega)⟩

/-- Until the next command is dispatched the report has the errors from before the last one, and one
more at most. -/
theorem errors_of_dispatches {n k : Nat} {command : Command}
    (h : (course settings d commands device cancelled).Dispatches n command) (hlt : n < k)
    (hnone : ∀ i, n < i → i < k → ∀ other,
      ¬ (course settings d commands device cancelled).Dispatches i other) :
    let errors k := (reached settings d commands device cancelled k).report.errors
    errors k = errors n ∨ ∃ e, command.Leaves settings e ∧ errors k = errors n ++ [e] := by
  intro errors
  have hgrows (j : Nat) : errors (j + 1) = errors j ∨
      ∃ e, (∃ other, (course settings d commands device cancelled).Latest (j + 1) other ∧
        other.Leaves settings e) ∧ errors (j + 1) = errors j ++ [e] := by
    refine (errors_reached_succ settings d commands device cancelled j).imp_right ?_
    rintro ⟨other, e, hlatest, he, hadd⟩
    exact ⟨e, ⟨other, hlatest, he⟩, hadd⟩
  have hbound : (errors k).length ≤ (errors n).length + 1 := by
    rcases h.errors_eq hlt hnone with hsame | ⟨e, hadd⟩
    · exact Nat.le_succ_of_le (Nat.le_of_eq (congrArg List.length hsame))
    · exact Nat.le_of_eq ((congrArg List.length hadd).trans List.length_append)
  rcases eq_or_append_of_grows hgrows (Nat.le_of_lt hlt) hbound with
    hsame | ⟨j, e, hlow, hhigh, ⟨other, hlatest, he⟩, hadd⟩
  · exact .inl hsame
  · obtain rfl := latest_unique h hnone hlow hhigh hlatest
    exact .inr ⟨e, he, hadd⟩

/-- Until the next command is dispatched the calls are those from before the last one, and one more
at most. -/
theorem calls_of_dispatches {n k : Nat} {command : Command}
    (h : (course settings d commands device cancelled).Dispatches n command) (hlt : n < k)
    (hnone : ∀ i, n < i → i < k → ∀ other,
      ¬ (course settings d commands device cancelled).Dispatches i other) :
    let calls := callsMade settings d commands device cancelled
    calls k = calls n ∨ ∃ call, command.Makes call ∧ calls k = calls n ++ [call] := by
  intro calls
  have hgrows (j : Nat) : calls (j + 1) = calls j ∨
      ∃ call, (∃ other, (course settings d commands device cancelled).Latest (j + 1) other ∧
        other.Makes call) ∧ calls (j + 1) = calls j ++ [call] := by
    have hnext : calls (j + 1) = calls j ++ _ := callsMade_succ settings d commands device cancelled j
    rcases (reached settings d commands device cancelled j).pending_cases with hnothing | ⟨call, hone⟩
    · exact .inl (by rw [hnext, hnothing, List.append_nil])
    · refine .inr ⟨call, ?_, by rw [hnext, hone]⟩
      have hcall : call ∈ (reached settings d commands device cancelled j).pending := by
        rw [hone]
        exact List.mem_singleton_self call
      obtain ⟨i, other, rfl, hdispatch, _, hmakes⟩ := dispatches_of_pending hcall
      refine ⟨other, ⟨i, by omega, hdispatch, fun l hlow hhigh another hanother => ?_⟩, hmakes⟩
      -- A turn that makes a call dispatches nothing.
      obtain rfl : l = i + 1 := by omega
      rw [pending_of_dispatches hanother] at hcall
      cases hcall
  have hbound : (calls k).length ≤ (calls n).length + 1 := by
    obtain ⟨more, rfl⟩ := Nat.exists_eq_add_of_le (Nat.le_of_lt hlt)
    have hsteps : (reached settings d commands device cancelled (n + more)).report.steps =
        (reached settings d commands device cancelled n).report.steps + 1 := h.steps_eq hlt hnone
    have hcalls := callsMade_le_steps settings d commands device cancelled n more
    have hpending : (reached settings d commands device cancelled n).pending = [] := pending_of_dispatches h
    simp only [hsteps, hpending, List.length_nil] at hcalls
    simp only [calls]
    omega
  rcases eq_or_append_of_grows hgrows (Nat.le_of_lt hlt) hbound with
    hsame | ⟨j, call, hlow, hhigh, ⟨other, hlatest, hmakes⟩, hadd⟩
  · exact .inl hsame
  · obtain rfl := latest_unique h hnone hlow hhigh hlatest
    exact .inr ⟨call, hmakes, hadd⟩

/-- Every error in a report is left by a command that was dispatched. -/
theorem dispatches_of_mem_errors {k : Nat} {e : RunError}
    (he : e ∈ (reached settings d commands device cancelled k).report.errors) :
    ∃ n command, n < k ∧ (course settings d commands device cancelled).Dispatches n command ∧
      command.Leaves settings e := by
  induction k with
  | zero => cases he
  | succ k ih =>
    have hbefore (h : e ∈ (reached settings d commands device cancelled k).report.errors) :
        ∃ n command, n < k + 1 ∧ (course settings d commands device cancelled).Dispatches n command ∧
          command.Leaves settings e := by
      obtain ⟨n, command, hlt, hfound⟩ := ih h
      exact ⟨n, command, Nat.lt_succ_of_lt hlt, hfound⟩
    rcases errors_reached_succ settings d commands device cancelled k with
      hsame | ⟨command, last, ⟨n, hlt, hdispatch, _⟩, hleaves, hadd⟩
    · rw [hsame] at he
      exact hbefore he
    · rw [hadd, List.mem_append] at he
      rcases he with hold | hlast
      · exact hbefore hold
      · obtain rfl := List.mem_singleton.mp hlast
        exact ⟨n, command, hlt, hdispatch, hleaves⟩

/-- Every call was made by a command that was dispatched. -/
theorem dispatches_of_mem_calls {k : Nat} {call : DeviceCall}
    (hcall : call ∈ callsMade settings d commands device cancelled k) :
    ∃ n command, n < k ∧ (course settings d commands device cancelled).Dispatches n command ∧
      command.Makes call := by
  induction k with
  | zero => cases hcall
  | succ k ih =>
    rw [callsMade_succ, List.mem_append] at hcall
    rcases hcall with hold | hlast
    · obtain ⟨n, command, hlt, hfound⟩ := ih hold
      exact ⟨n, command, Nat.lt_succ_of_lt hlt, hfound⟩
    · obtain ⟨n, command, rfl, hdispatch, _, hmakes⟩ := dispatches_of_pending hlast
      exact ⟨n, command, by omega, hdispatch, hmakes⟩

variable (settings d commands device cancelled)

/-- The errors and the calls of a run go back to its commands. -/
structure Attributes : Prop where
  /-- Until the next command is dispatched, a command leaves one error of its own or none. -/
  errors : ∀ n command, (course settings d commands device cancelled).Dispatches n command → ∀ k, n < k →
    (∀ i, n < i → i < k → ∀ other, ¬ (course settings d commands device cancelled).Dispatches i other) →
      let errors k := (reached settings d commands device cancelled k).report.errors
      errors k = errors n ∨ ∃ e, command.Leaves settings e ∧ errors k = errors n ++ [e]
  /-- Until the next command is dispatched, a command makes one call of its own or none. -/
  calls : ∀ n command, (course settings d commands device cancelled).Dispatches n command → ∀ k, n < k →
    (∀ i, n < i → i < k → ∀ other, ¬ (course settings d commands device cancelled).Dispatches i other) →
      let calls := callsMade settings d commands device cancelled
      calls k = calls n ∨ ∃ call, command.Makes call ∧ calls k = calls n ++ [call]
  /-- There are no more errors than steps. -/
  errorsBound : ∀ k, (reached settings d commands device cancelled k).report.errors.length ≤
    (reached settings d commands device cancelled k).report.steps
  /-- There are no more calls than steps. -/
  callsBound : ∀ k, (callsMade settings d commands device cancelled k).length ≤
    (reached settings d commands device cancelled k).report.steps
  /-- Every error has been left by a command of the script that has been dispatched. -/
  errorsOrigin : ∀ k, ∀ e ∈ (reached settings d commands device cancelled k).report.errors,
    ∃ n command, n < k ∧ (course settings d commands device cancelled).Dispatches n command ∧
      command ∈ Command.allOf commands ∧ command.Leaves settings e
  /-- Every call has been made by a command of the script that has been dispatched. -/
  callsOrigin : ∀ k, ∀ call ∈ callsMade settings d commands device cancelled k,
    ∃ n command, n < k ∧ (course settings d commands device cancelled).Dispatches n command ∧
      command ∈ Command.allOf commands ∧ command.Makes call

/-- Whatever the device does, every error and every call of a run belongs to one command. -/
theorem attributable : Attributes settings d commands device cancelled where
  errors _ _ hdispatch _ hlt hnone := errors_of_dispatches hdispatch hlt hnone
  calls _ _ hdispatch _ hlt hnone := calls_of_dispatches hdispatch hlt hnone
  errorsBound k := by
    have hstart := (course settings d commands device cancelled).errors_le_steps 0 k
    rw [Nat.zero_add] at hstart
    have hsteps : ((course settings d commands device cancelled).state 0).steps = 0 := rfl
    have herrors : ((course settings d commands device cancelled).state 0).errors.size = 0 := rfl
    have hrisk : ((course settings d commands device cancelled).state 0).control.risk = 0 := rfl
    change ((course settings d commands device cancelled).state k).errors.toList.length ≤
      ((course settings d commands device cancelled).state k).steps
    rw [Array.length_toList]
    omega
  callsBound k := by
    have hstart := callsMade_le_steps settings d commands device cancelled 0 k
    rw [Nat.zero_add] at hstart
    have hsteps : (reached settings d commands device cancelled 0).report.steps = 0 := rfl
    have hcalls : (callsMade settings d commands device cancelled 0).length = 0 := rfl
    have hpending : (reached settings d commands device cancelled 0).pending.length = 0 := rfl
    simp only [hsteps, hcalls, hpending] at hstart
    omega
  errorsOrigin _ _ he := by
    obtain ⟨n, command, hlt, hdispatch, hleaves⟩ := dispatches_of_mem_errors he
    exact ⟨n, command, hlt, hdispatch, hdispatch.mem_allOf, hleaves⟩
  callsOrigin _ _ hcall := by
    obtain ⟨n, command, hlt, hdispatch, hmakes⟩ := dispatches_of_mem_calls hcall
    exact ⟨n, command, hlt, hdispatch, hdispatch.mem_allOf, hmakes⟩

/-- A script that taps in a function, calls the function twice, and goes to a label that is nowhere. -/
def pokesTwice : List Command :=
  [.function 1 "poke" [.leaf 2 (.gesture (.tap ⟨⟨523, by decide, by decide⟩, ⟨941, by decide, by decide⟩⟩))],
    .leaf 4 (.call "poke"), .leaf 5 (.call "poke"), .leaf 6 (.goto "home")]

/-- The first tap fails. It is the command in the body of the function that has left the error. -/
theorem pokesTwice_attributed :
    let rehearsal :=
      { Rehearsal.plain (.new [] [] false) with behaviours := [.fails (.commandFailed "offline")] }
    let run := reached Settings.default Rehearsal.device pokesTwice rehearsal false
    (run 30).report.errors = [.device 2 "click" (.commandFailed "offline"), .labelNotFound 6 "home"] ∧
      (run 30).report.steps = 6 ∧
      (callsMade Settings.default Rehearsal.device pokesTwice rehearsal false 30).length = 2 ∧
      ∃ n command, n < 30 ∧
        (course Settings.default Rehearsal.device pokesTwice rehearsal false).Dispatches n command ∧
        command ∈ Command.allOf pokesTwice ∧
        command.Leaves Settings.default (.device 2 "click" (.commandFailed "offline")) := by
  intro rehearsal run
  have herrors : (run 30).report.errors =
      [.device 2 "click" (.commandFailed "offline"), .labelNotFound 6 "home"] := by decide
  refine ⟨herrors, by decide, by decide, ?_⟩
  refine (attributable Settings.default Rehearsal.device pokesTwice rehearsal false).errorsOrigin 30 _ ?_
  change _ ∈ (run 30).report.errors
  rw [herrors]
  exact .head _

end Run

end TouchScript
