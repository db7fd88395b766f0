import Mathlib.Data.List.Basic
import Mathlib.Logic.Relation
import TouchScript.Proofs.Interpreter.Jobs

namespace TouchScript

/-- An interpreter and what has happened so far: the runs begun by a start, the runs that got the
device and the calls with the runs that made them, each in the order of time. -/
structure Chronicle (σ : Type) where
  interpreter : Interpreter (σ × List DeviceCall)
  started : List Nat
  granted : List Nat
  made : List (Nat × DeviceCall)

namespace Chronicle

variable {σ : Type}

/-- Nothing has happened yet. -/
def new (settings : Settings) (device : σ) : Chronicle σ :=
  ⟨Interpreter.new settings (device, []), [], [], []⟩

/-- A run by its place. -/
def job? (c : Chronicle σ) (id : Nat) : Option Job :=
  c.interpreter.jobs[id]?

/-- What can happen next: starts, stops and cancellations come at any time, and the runs that wait
may get the device in any order. -/
inductive Step (d : Device σ) (c : Chronicle σ) : Chronicle σ → Prop where
  /-- A run is started in place of the active one. -/
  | start (commands : List Command) :
      Step d c
        { c with
          interpreter := (c.interpreter.start commands).2
          started := c.started ++ [(c.interpreter.start commands).1] }
  /-- Somebody wants to run a script, which may have been cancelled already. -/
  | enroll (commands : List Command) (cancelled : Bool) :
      Step d c { c with interpreter := (c.interpreter.enroll commands cancelled).2 }
  /-- The active run is stopped. -/
  | stop : Step d c { c with interpreter := c.interpreter.stop }
  /-- A run is cancelled. -/
  | cancel (id : Nat) : Step d c { c with interpreter := c.interpreter.cancel id }
  /-- A run that waits gets the device, which nobody holds. -/
  | acquire {id : Nat} {job : Job} (hfree : c.interpreter.holder = none) (hjob : c.job? id = some job)
      (hwaiting : job.phase = .waiting) :
      Step d c { c with interpreter := c.interpreter.acquire id, granted := c.granted ++ [id] }
  /-- The run that holds the device has a turn. It may be cancelled during the call that it makes. -/
  | advance {id : Nat} {job : Job} (hholder : c.interpreter.holder = some id)
      (hjob : c.job? id = some job) (cancelAt : Option Nat) :
      Step d c
        { c with
          interpreter := (c.interpreter.advance (d.logged cancelAt)).2
          made := c.made ++ (job.machine.control.call?.map (id, ·)).toList }

/-- What can happen in the long run. -/
abbrev Reaches (d : Device σ) : Chronicle σ → Chronicle σ → Prop :=
  Relation.ReflTransGen (Step d)

namespace Step

variable {d : Device σ} {c c' : Chronicle σ}

/-- A step that leaves the device alone, gives it to a run that waits, or is a turn of the run that
holds it. -/
theorem cases_quiet (hstep : Step d c c') :
    (c.interpreter.Quiet c'.interpreter ∧ c'.granted = c.granted ∧ c'.made = c.made) ∨
      (∃ id job, c.interpreter.holder = none ∧ c.job? id = some job ∧ job.phase = .waiting ∧
        c' = { c with interpreter := c.interpreter.acquire id, granted := c.granted ++ [id] }) ∨
      ∃ id job cancelAt, c.interpreter.holder = some id ∧ c.job? id = some job ∧
        c' = { c with
          interpreter := (c.interpreter.advance (d.logged cancelAt)).2
          made := c.made ++ (job.machine.control.call?.map (id, ·)).toList } := by
  cases hstep with
  | start commands => exact .inl ⟨c.interpreter.quiet_start commands, rfl, rfl⟩
  | enroll commands cancelled => exact .inl ⟨c.interpreter.quiet_enroll commands cancelled, rfl, rfl⟩
  | stop => exact .inl ⟨c.interpreter.quiet_stop, rfl, rfl⟩
  | cancel id => exact .inl ⟨c.interpreter.quiet_cancel id, rfl, rfl⟩
  | acquire hfree hjob hwaiting => exact .inr (.inl ⟨_, _, hfree, hjob, hwaiting, rfl⟩)
  | advance hholder hjob cancelAt => exact .inr (.inr ⟨_, _, cancelAt, hholder, hjob, rfl⟩)

/-- What a step can do to a run. -/
theorem job_cases (hstep : Step d c c') {id : Nat} {job : Job} (hjob : c.job? id = some job) :
    (∃ cancelled, c'.job? id = some { job with cancelled } ∧ (job.cancelled = true → cancelled = true)) ∨
      (job.phase = .waiting ∧ c'.job? id = some { job with phase := .running }) ∨
      ∃ cancelAt, c.interpreter.holder = some id ∧
        c'.job? id = some (job.after (job.machine.turn c.interpreter.settings (d.logged cancelAt)
          c.interpreter.device job.cancelled)) := by
  have hset {job' : Job} (other : Nat) :
      (c.interpreter.jobs.set other job')[id]? = if other = id then some job' else some job := by
    rw [List.getElem?_set]
    split
    next hsame => simp [hsame, (List.getElem?_eq_some_iff.mp hjob).1]
    next => exact hjob
  rcases hstep.cases_quiet with ⟨hquiet, _⟩ | ⟨other, job', hfree, hjob', hwaiting, rfl⟩ |
    ⟨other, job', cancelAt, hholder, hjob', rfl⟩
  · exact .inl (hquiet.kept id job hjob)
  · simp only [job?, Interpreter.acquire_of_waiting hfree hjob' hwaiting, hset]
    split
    next hsame =>
      subst hsame
      cases hjob'.symm.trans hjob
      exact .inr (.inl ⟨hwaiting, rfl⟩)
    next => exact .inl ⟨job.cancelled, rfl, fun h => h⟩
  · simp only [job?, Interpreter.advance_of_holder _ hholder hjob', hset]
    split
    next hsame =>
      subst hsame
      cases hjob'.symm.trans hjob
      exact .inr (.inr ⟨cancelAt, hholder, rfl⟩)
    next => exact .inl ⟨job.cancelled, rfl, fun h => h⟩

/-- No run is taken away, and no cancellation is taken back. -/
theorem job_kept (hstep : Step d c c') {id : Nat} {job : Job} (hjob : c.job? id = some job) :
    ∃ job', c'.job? id = some job' ∧ (job.cancelled = true → job'.cancelled = true) := by
  rcases hstep.job_cases hjob with ⟨cancelled, hjob', hkept⟩ | ⟨_, hjob'⟩ | ⟨cancelAt, _, hjob'⟩
  · exact ⟨_, hjob', hkept⟩
  · exact ⟨_, hjob', fun h => h⟩
  · refine ⟨_, hjob', fun hcancelled => ?_⟩
    rw [hcancelled]
    exact job.machine.cancelled_turn _ _ _

/-- A call is made by the run that holds the device. -/
theorem mem_made (hstep : Step d c c') {entry : Nat × DeviceCall} (hentry : entry ∈ c'.made) :
    entry ∈ c.made ∨ ∃ job, c.interpreter.holder = some entry.1 ∧ c.job? entry.1 = some job ∧
      job.machine.control.call? = some entry.2 := by
  rcases hstep.cases_quiet with ⟨_, _, hmade⟩ | ⟨_, _, _, _, _, rfl⟩ | ⟨id, job, _, hholder, hjob, rfl⟩
  · exact .inl (hmade ▸ hentry)
  · exact .inl hentry
  · refine (List.mem_append.mp hentry).imp_right fun hnew => ?_
    obtain ⟨call, hcall, rfl⟩ := Option.map_eq_some_iff.mp (Option.mem_toList.mp hnew)
    exact ⟨job, hholder, hjob, hcall⟩

end Step

/-- The device is held by the run that got it last, and the runs that got it before are over. Each call
was made by a run that had the device, and a run that waits has not begun. -/
structure Orderly (c : Chronicle σ) : Prop where
  holder : ∀ id, c.interpreter.holder = some id ↔ ∃ job, c.job? id = some job ∧ job.phase = .running
  granted : ∀ id, id ∈ c.granted ↔ ∃ job, c.job? id = some job ∧ job.phase ≠ .waiting
  once : c.granted.Nodup
  last : ∀ id, c.interpreter.holder = some id → ∃ before, c.granted = before ++ [id]
  grouped : c.made = c.granted.flatMap fun id => c.made.filter (·.1 == id)
  listed : c.interpreter.device.2 = c.made.map Prod.snd
  fresh : ∀ id job, c.job? id = some job → job.phase = .waiting →
    ∃ commands, job.machine = Machine.start c.interpreter.settings commands

/-- At first nobody has the device and nothing has been called. -/
theorem orderly_new (settings : Settings) (device : σ) : Orderly (new settings device) where
  holder _ := ⟨nofun, fun ⟨_, hjob, _⟩ => nomatch hjob⟩
  granted _ := ⟨nofun, fun ⟨_, hjob, _⟩ => nomatch hjob⟩
  once := List.nodup_nil
  last _ hholder := nomatch hholder
  grouped := rfl
  listed := rfl
  fresh _ _ hjob := nomatch hjob

namespace Orderly

variable {d : Device σ} {c c' : Chronicle σ}

/-- Who has made a call has got the device. -/
theorem mem_granted (h : Orderly c) {entry : Nat × DeviceCall} (hentry : entry ∈ c.made) :
    entry.1 ∈ c.granted := by
  rw [h.grouped] at hentry
  obtain ⟨id, hgranted, hmem⟩ := List.mem_flatMap.mp hentry
  rw [eq_of_beq (List.mem_filter.mp hmem).2]
  exact hgranted

/-- The run that holds the device has begun and is not over. -/
theorem running (h : Orderly c) {id : Nat} {job : Job} (hholder : c.interpreter.holder = some id)
    (hjob : c.job? id = some job) : job.phase = .running := by
  obtain ⟨job', hjob', hrunning⟩ := (h.holder id).mp hholder
  cases hjob.symm.trans hjob'
  exact hrunning

/-- The run that holds the device got it once. -/
theorem exists_before (h : Orderly c) {id : Nat} (hholder : c.interpreter.holder = some id) :
    ∃ before, c.granted = before ++ [id] ∧ id ∉ before := by
  obtain ⟨before, hgranted⟩ := h.last id hholder
  have honce := h.once
  rw [hgranted] at honce
  refine ⟨before, hgranted, fun hmem => ?_⟩
  exact (List.nodup_append.mp honce).2.2 id hmem id (List.mem_singleton_self id) rfl

/-- Starts, stops and cancellations keep the order, as they neither move the device nor make a call. -/
theorem of_quiet (h : Orderly c) (hquiet : c.interpreter.Quiet c'.interpreter)
    (hgranted : c'.granted = c.granted) (hmade : c'.made = c.made) : Orderly c' := by
  -- Nobody begins or ends to hold the device.
  have hphase {P : Phase → Prop} (hnot : ¬ P .waiting) (id : Nat) :
      (∃ job, c'.job? id = some job ∧ P job.phase) ↔ ∃ job, c.job? id = some job ∧ P job.phase := by
    constructor
    · rintro ⟨job', hjob', hp⟩
      rcases hquiet.job_cases hjob' with ⟨job, hjob, _, hphase⟩ | ⟨_, hwaiting, _⟩
      · exact ⟨job, hjob, hphase ▸ hp⟩
      · exact absurd (hwaiting ▸ hp) hnot
    · rintro ⟨job, hjob, hp⟩
      obtain ⟨cancelled, hjob', _⟩ := hquiet.kept id job hjob
      exact ⟨_, hjob', hp⟩
  constructor
  case holder =>
    intro id
    rw [hquiet.holder, h.holder id]
    exact (hphase (P := (· = .running)) nofun id).symm
  case granted =>
    intro id
    rw [hgranted, h.granted id]
    exact (hphase (P := (· ≠ .waiting)) (fun hnot => hnot rfl) id).symm
  case once => exact hgranted ▸ h.once
  case last =>
    intro id hholder
    rw [hgranted]
    exact h.last id (hquiet.holder ▸ hholder)
  case grouped =>
    rw [hgranted, hmade]
    exact h.grouped
  case listed =>
    rw [hquiet.device, hmade]
    exact h.listed
  case fresh =>
    intro id job' hjob' hwaiting
    rw [hquiet.settings]
    rcases hquiet.job_cases hjob' with ⟨job, hjob, hmachine, hphase⟩ | ⟨_, _, hfresh⟩
    · obtain ⟨commands, hstart⟩ := h.fresh id job hjob (hphase ▸ hwaiting)
      exact ⟨commands, hmachine.trans hstart⟩
    · exact hfresh

/-- Reading one run where one run has been written. -/
theorem exists_job_set {jobs : List Job} {id : Nat} {job job' : Job} (hjob : jobs[id]? = some job)
    (P : Job → Prop) (other : Nat) :
    (∃ found, (jobs.set id job')[other]? = some found ∧ P found) ↔
      if other = id then P job' else ∃ found, jobs[other]? = some found ∧ P found := by
  rw [List.getElem?_set]
  have hless := (List.getElem?_eq_some_iff.mp hjob).1
  by_cases hsame : other = id
  · subst hsame
    simp [hless]
  · simp [hsame, Ne.symm hsame]

/-- The runs that wait still have not begun when another run has been written. -/
theorem fresh_set (h : Orderly c) {id : Nat} {job job' : Job} (hjob : c.job? id = some job)
    (hpast : job'.phase ≠ .waiting) (other : Nat) (found : Job)
    (hfound : (c.interpreter.jobs.set id job')[other]? = some found) (hwaiting : found.phase = .waiting) :
    ∃ commands, found.machine = Machine.start c.interpreter.settings commands := by
  have hold := (exists_job_set hjob (fun job => job = found) other).mp ⟨found, hfound, rfl⟩
  split at hold
  next =>
    subst hold
    exact absurd hwaiting hpast
  next =>
    obtain ⟨_, hold, rfl⟩ := hold
    exact h.fresh other _ hold hwaiting

/-- A waiting run that takes the free device is now the last to have got it, and has made no call
yet. -/
theorem acquire (h : Orderly c) {id : Nat} {job : Job} (hfree : c.interpreter.holder = none)
    (hjob : c.job? id = some job) (hwaiting : job.phase = .waiting) :
    Orderly { c with interpreter := c.interpreter.acquire id, granted := c.granted ++ [id] } := by
  have hnot : id ∉ c.granted := by
    intro hmem
    obtain ⟨job', hjob', hpast⟩ := (h.granted id).mp hmem
    cases hjob.symm.trans hjob'
    exact hpast hwaiting
  rw [Interpreter.acquire_of_waiting hfree hjob hwaiting]
  constructor
  case holder =>
    intro other
    refine Iff.trans ?_ (exists_job_set hjob (·.phase = .running) other).symm
    split
    next hsame => simp [hsame]
    next hother =>
      refine ⟨fun hholder => absurd (Option.some.inj hholder).symm hother, fun hrunning => ?_⟩
      cases hfree.symm.trans ((h.holder other).mpr hrunning)
  case granted =>
    intro other
    refine Iff.trans ?_ (exists_job_set hjob (·.phase ≠ .waiting) other).symm
    rw [List.mem_append, List.mem_singleton, h.granted other]
    by_cases hsame : other = id
    · simp [hsame]
    · simp [hsame, job?]
  case once =>
    refine List.nodup_append.mpr ⟨h.once, List.pairwise_singleton _ _, ?_⟩
    rintro other hmem _ hlast rfl
    exact hnot (List.mem_singleton.mp hlast ▸ hmem)
  case last =>
    intro other hholder
    cases hholder
    exact ⟨_, rfl⟩
  case grouped =>
    -- It has made no call before, so its own group is empty.
    have hnone : c.made.filter (·.1 == id) = [] := by
      refine List.filter_eq_nil_iff.mpr fun entry hentry hsame => ?_
      exact hnot (eq_of_beq hsame ▸ h.mem_granted hentry)
    simpa [hnone] using h.grouped
  case listed => exact h.listed
  case fresh => exact h.fresh_set hjob (by simp)

/-- The calls stay grouped when the last run makes others. -/
theorem grouped_append {before : List Nat} {id : Nat} (hnot : id ∉ before)
    {made calls : List (Nat × DeviceCall)} (hcalls : ∀ entry ∈ calls, entry.1 = id)
    (hgrouped : made = (before ++ [id]).flatMap fun id => made.filter (·.1 == id)) :
    made ++ calls = (before ++ [id]).flatMap fun id => (made ++ calls).filter (·.1 == id) := by
  have hothers : (before.flatMap fun id => (made ++ calls).filter (·.1 == id)) =
      before.flatMap fun id => made.filter (·.1 == id) := by
    refine List.flatMap_congr fun other hother => ?_
    have hnone : calls.filter (·.1 == other) = [] := by
      refine List.filter_eq_nil_iff.mpr fun entry hentry hsame => ?_
      exact hnot (hcalls entry hentry ▸ eq_of_beq hsame ▸ hother)
    rw [List.filter_append, hnone, List.append_nil]
  have hown : calls.filter (·.1 == id) = calls :=
    List.filter_eq_self.mpr fun entry hentry => beq_iff_eq.mpr (hcalls entry hentry)
  rw [List.flatMap_append, hothers, List.flatMap_singleton, List.filter_append, hown, ← List.append_assoc]
  exact congrArg (· ++ calls) (by simpa using hgrouped)

/-- A turn of the run that holds the device adds its calls behind all others, and gives the device
back when the run is over. -/
theorem advance (h : Orderly c) {id : Nat} {job : Job} (hholder : c.interpreter.holder = some id)
    (hjob : c.job? id = some job) (cancelAt : Option Nat) :
    Orderly
      { c with
        interpreter := (c.interpreter.advance (d.logged cancelAt)).2
        made := c.made ++ (job.machine.control.call?.map (id, ·)).toList } := by
  obtain ⟨before, hbefore, hnot⟩ := h.exists_before hholder
  have hrunning := h.running hholder hjob
  rw [Interpreter.advance_of_holder _ hholder hjob]
  generalize hturn : job.machine.turn c.interpreter.settings (d.logged cancelAt) c.interpreter.device
    job.cancelled = turn
  -- The run goes on holding the device, or is over.
  have hafter : turn.signal.status = .running ∧ (job.after turn).phase = .running ∨
      turn.signal.status ≠ .running ∧ (job.after turn).IsOver := by
    by_cases hgoes : turn.signal.status = .running
    · exact .inl ⟨hgoes, (Job.phase_after_of_running hgoes).trans hrunning⟩
    · exact .inr ⟨hgoes, Job.isOver_after hgoes⟩
  have hpast : (job.after turn).phase ≠ .waiting := by
    rcases hafter with ⟨_, hphase⟩ | ⟨_, hover⟩
    · rw [hphase]
      exact nofun
    · exact hover.1
  constructor
  case holder =>
    intro other
    refine Iff.trans ?_ (exists_job_set hjob (·.phase = .running) other).symm
    by_cases hsame : other = id
    · subst hsame
      rcases hafter with ⟨hgoes, hphase⟩ | ⟨hends, hover⟩
      · simp [hgoes, hphase]
      · simp [hends, hover.2]
    · have hother : (∃ found, c.job? other = some found ∧ found.phase = .running) → False := by
        intro hfound
        cases hholder.symm.trans ((h.holder other).mpr hfound)
        exact hsame rfl
      rw [if_neg hsame]
      refine ⟨fun hholds => ?_, fun hfound => (hother hfound).elim⟩
      split at hholds
      next => cases hholds; exact absurd rfl hsame
      next => cases hholds
  case granted =>
    intro other
    refine Iff.trans (h.granted other) (Iff.trans ?_ (exists_job_set hjob (·.phase ≠ .waiting) other).symm)
    by_cases hsame : other = id
    · subst hsame
      simp [hjob, hrunning, hpast]
    · simp [hsame, job?]
  case once => exact h.once
  case last =>
    intro other hholds
    refine ⟨before, hbefore.trans ?_⟩
    dsimp only at hholds
    split at hholds
    next => cases hholds; rfl
    next => cases hholds
  case grouped =>
    have hgrouped := h.grouped
    rw [hbefore] at hgrouped ⊢
    refine grouped_append hnot (fun entry hentry => ?_) hgrouped
    obtain ⟨call, _, rfl⟩ := Option.map_eq_some_iff.mp (Option.mem_toList.mp hentry)
    rfl
  case listed =>
    subst hturn
    dsimp only
    rw [Machine.calls_turn, h.listed, List.map_append]
    cases job.machine.control.call? <;> rfl
  case fresh => exact h.fresh_set hjob hpast

/-- Whatever happens next, the device is still held in order. There is one case for each thing that
can happen. -/
theorem step (h : Orderly c) (hstep : Step d c c') : Orderly c' := by
  rcases hstep.cases_quiet with ⟨hquiet, hgranted, hmade⟩ | ⟨id, job, hfree, hjob, hwaiting, rfl⟩ |
    ⟨id, job, cancelAt, hholder, hjob, rfl⟩
  · exact h.of_quiet hquiet hgranted hmade
  · exact h.acquire hfree hjob hwaiting
  · exact h.advance hholder hjob cancelAt

end Orderly

end Chronicle

end TouchScript
