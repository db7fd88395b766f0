import TouchScript.Interpreter
import TouchScript.Proofs.Run.Calls

namespace TouchScript

namespace Job

/-- Has finished or broken down. -/
def IsOver (job : Job) : Prop :=
  job.phase ≠ .waiting ∧ job.phase ≠ .running

/-- What a turn leaves of a run. -/
def after {σ : Type} (job : Job) (turn : Turn σ) : Job where
  machine := turn.machine
  cancelled := turn.cancelled
  phase :=
    match turn.signal with
    | .finished => .finished (turn.machine.report turn.cancelled)
    | .crashed o => .crashed o
    | _ => job.phase

variable {σ : Type} {job : Job} {turn : Turn σ}

/-- A turn that leaves a run going does not change how far the run has come. -/
theorem phase_after_of_running (hrunning : turn.signal.status = .running) :
    (job.after turn).phase = job.phase := by
  unfold after
  cases hsignal : turn.signal <;> simp_all [Signal.status]

/-- A turn that ends a run leaves it over. -/
theorem isOver_after (hover : turn.signal.status ≠ .running) : (job.after turn).IsOver := by
  unfold after IsOver
  cases hsignal : turn.signal <;> simp_all [Signal.status]

end Job

/-- A turn does not take a cancellation back. -/
theorem Machine.cancelled_turn {σ : Type} (m : Machine) (settings : Settings) (d : Device σ)
    (device : σ) : (m.turn settings d device true).cancelled = true := by
  rw [cancelled_turn_eq, Bool.true_or]

/-- A turn enters the call that it makes, if any, into the list. -/
theorem Machine.calls_turn {σ : Type} (settings : Settings) (m : Machine) (d : Device σ)
    (cancelAt : Option Nat) (state : σ × List DeviceCall) (cancelled : Bool) :
    (m.turn settings (d.logged cancelAt) state cancelled).device.2 =
      state.2 ++ m.control.call?.toList := by
  cases hcall : m.control.call? with
  | none =>
    have hsame := turn_of_noCall settings m hcall (d.logged cancelAt) (d.logged cancelAt) state cancelled
    simp [hsame.2.1]
  | some call => exact (turn_logged settings m hcall d cancelAt state cancelled).1

namespace Interpreter

variable {σ : Type}

/-- A run stays what it is, but may have been cancelled. -/
def JobsKept (jobs jobs' : List Job) : Prop :=
  ∀ (id : Nat) (job : Job), jobs[id]? = some job →
    ∃ cancelled, jobs'[id]? = some { job with cancelled } ∧ (job.cancelled = true → cancelled = true)

/-- Nobody has gone on: some runs may have been cancelled, and others been added. -/
structure Quiet (i i' : Interpreter σ) : Prop where
  settings : i'.settings = i.settings
  holder : i'.holder = i.holder
  device : i'.device = i.device
  kept : JobsKept i.jobs i'.jobs
  added : ∀ (id : Nat) (job : Job), i.jobs[id]? = none → i'.jobs[id]? = some job →
    job.phase = .waiting ∧ ∃ commands, job.machine = Machine.start i.settings commands

namespace Quiet

variable {i i' i'' : Interpreter σ}

/-- Nothing happening is quiet. -/
theorem refl (i : Interpreter σ) : Quiet i i where
  settings := rfl
  holder := rfl
  device := rfl
  kept _ job hjob := ⟨job.cancelled, hjob, id⟩
  added _ _ hnone hsome := nomatch hnone.symm.trans hsome

/-- Two quiet changes in a row are a quiet change. -/
theorem trans (h : Quiet i i') (h' : Quiet i' i'') : Quiet i i'' where
  settings := h'.settings.trans h.settings
  holder := h'.holder.trans h.holder
  device := h'.device.trans h.device
  kept id job hjob := by
    obtain ⟨cancelled, hjob', hmore⟩ := h.kept id job hjob
    obtain ⟨cancelled', hjob'', hmore'⟩ := h'.kept id _ hjob'
    exact ⟨cancelled', hjob'', fun hcancelled => hmore' (hmore hcancelled)⟩
  added id job hnone hsome := by
    cases hbetween : i'.jobs[id]? with
    | none =>
      rw [← h.settings]
      exact h'.added id job hbetween hsome
    | some job' =>
      obtain ⟨cancelled, hjob, _⟩ := h'.kept id job' hbetween
      cases hjob.symm.trans hsome
      exact h.added id job' hnone hbetween

/-- A run is as before, apart from its cancellation, or it has been added. -/
theorem job_cases (h : Quiet i i') {id : Nat} {job' : Job} (hjob' : i'.jobs[id]? = some job') :
    (∃ job, i.jobs[id]? = some job ∧ job'.machine = job.machine ∧ job'.phase = job.phase) ∨
      (i.jobs[id]? = none ∧ job'.phase = .waiting ∧
        ∃ commands, job'.machine = Machine.start i.settings commands) := by
  cases hjob : i.jobs[id]? with
  | none => exact .inr ⟨rfl, h.added id job' hjob hjob'⟩
  | some job =>
    obtain ⟨cancelled, hkept, _⟩ := h.kept id job hjob
    cases hkept.symm.trans hjob'
    exact .inl ⟨job, rfl, rfl, rfl⟩

end Quiet

/-- A run is cancelled, and the others are left alone. -/
theorem jobs_cancel (i : Interpreter σ) (id other : Nat) :
    (i.cancel id).jobs[other]? =
      i.jobs[other]?.map fun job => if other = id then { job with cancelled := true } else job := by
  simp only [cancel, update, List.getElem?_modify]
  by_cases hsame : other = id
  · simp [hsame]
  · simp [hsame, Ne.symm hsame]

/-- To cancel a run lets nobody go on. -/
theorem quiet_cancel (i : Interpreter σ) (id : Nat) : Quiet i (i.cancel id) where
  settings := rfl
  holder := rfl
  device := rfl
  kept other job hjob := by
    rw [jobs_cancel, hjob]
    by_cases hsame : other = id
    · exact ⟨true, by simp [hsame], fun _ => rfl⟩
    · exact ⟨job.cancelled, by simp [hsame], fun h => h⟩
  added other job hnone hsome := by
    rw [jobs_cancel, hnone] at hsome
    cases hsome

/-- To stop the active run lets nobody go on. -/
theorem quiet_stop (i : Interpreter σ) : Quiet i i.stop := by
  unfold stop
  split
  next id _ =>
    obtain ⟨hsettings, hholder, hdevice, hkept, hadded⟩ := quiet_cancel i id
    exact ⟨hsettings, hholder, hdevice, hkept, hadded⟩
  next => exact .refl i

/-- To add a run lets nobody go on: the run waits. -/
theorem quiet_enroll (i : Interpreter σ) (commands : List Command) (cancelled : Bool) :
    Quiet i (i.enroll commands cancelled).2 where
  settings := rfl
  holder := rfl
  device := rfl
  kept id job hjob := by
    have hless := (List.getElem?_eq_some_iff.mp hjob).1
    exact ⟨job.cancelled, (List.getElem?_append_left hless).trans hjob, fun h => h⟩
  added id job hnone hsome := by
    have hbehind := List.getElem?_eq_none_iff.mp hnone
    simp only [enroll, List.getElem?_append_right hbehind] at hsome
    obtain rfl := List.mem_singleton.mp (List.mem_of_getElem? hsome)
    exact ⟨rfl, commands, rfl⟩

/-- To start a run cancels the active one and adds another, and lets nobody go on. -/
theorem quiet_start (i : Interpreter σ) (commands : List Command) : Quiet i (i.start commands).2 := by
  obtain ⟨hsettings, hholder, hdevice, hkept, hadded⟩ :=
    (quiet_stop i).trans (quiet_enroll i.stop commands false)
  exact ⟨hsettings, hholder, hdevice, hkept, hadded⟩

/-- A waiting run gets the device if nobody holds it, and nothing else changes. -/
theorem acquire_of_waiting {i : Interpreter σ} {id : Nat} {job : Job} (hfree : i.holder = none)
    (hjob : i.jobs[id]? = some job) (hwaiting : job.phase = .waiting) :
    i.acquire id = { i with jobs := i.jobs.set id { job with phase := .running }, holder := some id } := by
  obtain ⟨machine, cancelled, phase⟩ := job
  cases hwaiting
  simp only [acquire, hfree, hjob]

/-- A turn of the run that holds the device. -/
theorem advance_of_holder {i : Interpreter σ} {id : Nat} {job : Job} (d : Device σ)
    (hholder : i.holder = some id) (hjob : i.jobs[id]? = some job) :
    let turn := job.machine.turn i.settings d i.device job.cancelled
    (i.advance d).2 =
      { i with
        jobs := i.jobs.set id (job.after turn)
        device := turn.device
        holder := if turn.signal.status = .running then some id else none } := by
  intro turn
  simp only [advance, hholder, hjob,
    show job.machine.turn i.settings d i.device job.cancelled = turn from rfl]
  cases hsignal : turn.signal <;> simp [Job.after, hsignal, Signal.status]

end Interpreter

end TouchScript
