import TouchScript.Proofs.Interpreter.Chronicle
import TouchScript.Run.Rehearsal

namespace TouchScript

namespace Machine

/-- Has dispatched nothing: stands before the first command, or has ended there. -/
structure Untouched (m : Machine) : Prop where
  steps : m.steps = 0
  stopped : m.stopped = false
  errors : m.errors = #[]
  values : m.context.values = []
  control : (m.control = .fetch ∧ ∃ scope commands, m.frames = [.sequence scope commands 0]) ∨
    m.isFinished = true

/-- A machine at its start has dispatched nothing. -/
theorem untouched_start (settings : Settings) (commands : List Command) :
    Untouched (start settings commands) :=
  ⟨rfl, rfl, rfl, rfl, .inl ⟨rfl, _, _, rfl⟩⟩

namespace Untouched

variable {m : Machine}

/-- A machine that has dispatched nothing is not about to call its device. -/
theorem call?_eq_none (h : Untouched m) : m.control.call? = none := by
  rcases h.control with ⟨hfetch, _⟩ | hfinished
  · rw [hfetch]
    rfl
  · obtain ⟨_, flow, hleave⟩ := (isFinished_eq_true_iff m).mp hfinished
    rw [hleave]
    rfl

/-- Once cancelled, the machine ends where it is and then is over. -/
theorem turn {σ : Type} (h : Untouched m) (settings : Settings) (d : Device σ) (device : σ) :
    (m.isFinished = true ∧ m.turn settings d device true = ⟨m, device, true, .finished⟩) ∨
      ∃ m' : Machine, m'.Untouched ∧ m'.isFinished = true ∧
        m.turn settings d device true = ⟨m', device, true, .proceed⟩ := by
  rcases h.control with ⟨hfetch, scope, commands, hframes⟩ | hfinished
  · refine .inr ⟨m.exitSequence [] .halt, ⟨h.steps, h.stopped, h.errors, h.values, .inr rfl⟩, rfl, ?_⟩
    simp [Machine.turn, hfetch, Machine.fetch, hframes, isHalted]
  · obtain ⟨_, flow, hleave⟩ := (isFinished_eq_true_iff m).mp hfinished
    refine .inl ⟨hfinished, ?_⟩
    simp [Machine.turn, hleave, hfinished]

/-- The report of a machine that has dispatched nothing, and was cancelled, is that of a run without
a command. -/
theorem report (h : Untouched m) : m.report true = ⟨.cancelled, 0, [], []⟩ := by
  simp [Machine.report, outcome, h.steps, h.stopped, h.errors, h.values]

end Untouched

end Machine

/-- Was cancelled before its first command, and has done nothing since. -/
structure Job.Dropped (job : Job) : Prop where
  cancelled : job.cancelled = true
  machine : job.machine.Untouched
  phase : job.phase = .waiting ∨ job.phase = .running ∨ job.phase = .finished ⟨.cancelled, 0, [], []⟩

namespace Job.Dropped

variable {σ : Type} {job : Job}

/-- The next turn ends the machine, and the one after it the run. -/
theorem turn (h : job.Dropped) (settings : Settings) (d : Device σ) (device : σ) :
    let turn := job.machine.turn settings d device job.cancelled
    (job.after turn).Dropped ∧ turn.device = device ∧
      (turn.signal = .finished ∧ (job.after turn).phase = .finished ⟨.cancelled, 0, [], []⟩ ∨
        turn.signal = .proceed ∧ (job.after turn).machine.isFinished = true) := by
  intro turn
  rcases h.machine.turn settings d device with ⟨_, hturn⟩ | ⟨m', hm', hfinished, hturn⟩
  · have hsame : turn = ⟨job.machine, device, true, .finished⟩ := by
      rw [← hturn, ← h.cancelled]
    have hphase : (job.after turn).phase = .finished ⟨.cancelled, 0, [], []⟩ := by
      simp only [hsame, after, h.machine.report]
    rw [hsame] at hphase ⊢
    exact ⟨⟨rfl, h.machine, .inr (.inr hphase)⟩, rfl, .inl ⟨rfl, hphase⟩⟩
  · have hsame : turn = ⟨m', device, true, .proceed⟩ := by
      rw [← hturn, ← h.cancelled]
    rw [hsame]
    exact ⟨⟨rfl, hm', h.phase⟩, rfl, .inr ⟨rfl, hfinished⟩⟩

/-- A machine that has ended ends its run. -/
theorem turn_of_isFinished (h : job.Dropped) (hfinished : job.machine.isFinished = true)
    (settings : Settings) (d : Device σ) (device : σ) :
    (job.after (job.machine.turn settings d device job.cancelled)).phase =
      .finished ⟨.cancelled, 0, [], []⟩ := by
  obtain ⟨_, flow, hleave⟩ := (Machine.isFinished_eq_true_iff _).mp hfinished
  simp only [Machine.turn, hleave, hfinished, if_true, after, h.cancelled, h.machine.report]

/-- Two turns with the device are enough for the report. -/
theorem advance_twice {i : Interpreter σ} {id : Nat} (h : job.Dropped) (hholder : i.holder = some id)
    (hjob : i.jobs[id]? = some job) (d e : Device σ) :
    ∃ job', ((i.advance d).2.advance e).2.jobs[id]? = some job' ∧
      job'.phase = .finished ⟨.cancelled, 0, [], []⟩ := by
  have hless := (List.getElem?_eq_some_iff.mp hjob).1
  obtain ⟨hdropped, _, hturn⟩ := h.turn i.settings d i.device
  rw [Interpreter.advance_of_holder d hholder hjob]
  generalize job.machine.turn i.settings d i.device job.cancelled = turn at hdropped hturn
  have hset : (i.jobs.set id (job.after turn))[id]? = some (job.after turn) :=
    List.getElem?_set_self hless
  rcases hturn with ⟨hsignal, hphase⟩ | ⟨hsignal, hfinished⟩
  · refine ⟨job.after turn, ?_, hphase⟩
    simp [hsignal, Signal.status, Interpreter.advance, hset]
  · simp only [hsignal, Signal.status, if_true]
    rw [Interpreter.advance_of_holder e rfl hset]
    refine ⟨_, List.getElem?_set_self (by simpa using hless), ?_⟩
    exact hdropped.turn_of_isFinished hfinished i.settings e turn.device

end Job.Dropped

namespace Chronicle

variable {σ : Type}

/-- A started run that is not the active one is cancelled. -/
def Superseded (c : Chronicle σ) : Prop :=
  ∀ id ∈ c.started, ∃ job, c.job? id = some job ∧
    (c.interpreter.active ≠ some id → job.cancelled = true)

namespace Superseded

variable {d : Device σ} {c c' : Chronicle σ}

/-- A started run that is not cancelled is the active one. -/
theorem active (h : Superseded c) {id : Nat} (hid : id ∈ c.started) {job : Job}
    (hjob : c.job? id = some job) (hgoes : job.cancelled = false) : c.interpreter.active = some id := by
  obtain ⟨job', hjob', hcancelled⟩ := h id hid
  cases hjob.symm.trans hjob'
  refine Decidable.byContradiction fun hother => ?_
  cases hgoes.symm.trans (hcancelled hother)

/-- After a stop all started runs are cancelled. -/
theorem stop (h : Superseded c) : ∀ id ∈ c.started, ∃ job, c.interpreter.stop.jobs[id]? = some job ∧
    job.cancelled = true := by
  intro id hstarted
  obtain ⟨job, hjob, hcancelled⟩ := h id hstarted
  unfold Interpreter.stop
  cases hactive : c.interpreter.active with
  | none => exact ⟨job, hjob, hcancelled (by simp [hactive])⟩
  | some active =>
    dsimp only
    rw [Interpreter.jobs_cancel, show c.interpreter.jobs[id]? = some job from hjob]
    refine ⟨_, rfl, ?_⟩
    split
    next => rfl
    next hother => exact hcancelled fun hsame => hother (Option.some.inj (hactive.symm.trans hsame)).symm

/-- The runs that were started stay cancelled. -/
theorem of_kept (h : Superseded c) (hstarted : c'.started = c.started)
    (hactive : c'.interpreter.active = c.interpreter.active) (hstep : Step d c c') : Superseded c' := by
  intro id hid
  obtain ⟨job, hjob, hcancelled⟩ := h id (hstarted ▸ hid)
  obtain ⟨job', hjob', hkept⟩ := hstep.job_kept hjob
  exact ⟨job', hjob', fun hother => hkept (hcancelled (hactive ▸ hother))⟩

/-- Whatever happens next, all started runs but the active one are cancelled. -/
theorem step (h : Superseded c) (hstep : Step d c c') : Superseded c' := by
  have hsame : c'.started = c.started → c'.interpreter.active = c.interpreter.active → Superseded c' :=
    fun hstarted hactive => h.of_kept hstarted hactive hstep
  cases hstep with
  | start commands =>
    intro id hid
    rcases List.mem_append.mp hid with hold | hnew
    · obtain ⟨job, hjob, hcancelled⟩ := h.stop id hold
      have hless := (List.getElem?_eq_some_iff.mp hjob).1
      exact ⟨job, (List.getElem?_append_left hless).trans hjob, fun _ => hcancelled⟩
    · obtain rfl := List.mem_singleton.mp hnew
      let job : Job := ⟨Machine.start c.interpreter.stop.settings commands, false, .waiting⟩
      exact ⟨job, List.getElem?_concat_length, fun hother => absurd rfl hother⟩
  | stop =>
    intro id hid
    obtain ⟨job, hjob, hcancelled⟩ := h.stop id hid
    exact ⟨job, hjob, fun _ => hcancelled⟩
  | enroll commands cancelled => exact hsame rfl rfl
  | cancel id => exact hsame rfl rfl
  | acquire hfree hjob hwaiting =>
    refine hsame rfl ?_
    rw [Interpreter.acquire_of_waiting hfree hjob hwaiting]
  | advance hholder hjob cancelAt =>
    refine hsame rfl ?_
    rw [Interpreter.advance_of_holder _ hholder hjob]

end Superseded

/-- A run was cancelled before it got the device, and has done nothing with it. -/
structure Dropped (c : Chronicle σ) (id : Nat) : Prop where
  job : ∃ job, c.job? id = some job ∧ job.Dropped
  silent : ∀ entry ∈ c.made, entry.1 ≠ id

namespace Dropped

variable {d : Device σ} {c c' : Chronicle σ} {id : Nat}

/-- A run that is cancelled while it waits has not had the device. -/
theorem of_waiting (h : Orderly c) {job : Job} (hjob : c.job? id = some job)
    (hwaiting : job.phase = .waiting) (hcancelled : job.cancelled = true) : Dropped c id where
  job := by
    obtain ⟨commands, hstart⟩ := h.fresh id job hjob hwaiting
    exact ⟨job, hjob, hcancelled, hstart ▸ Machine.untouched_start _ commands, .inl hwaiting⟩
  silent entry hentry hsame := by
    obtain ⟨job', hjob', hpast⟩ := (h.granted id).mp (hsame ▸ h.mem_granted hentry)
    cases hjob.symm.trans hjob'
    exact hpast hwaiting

/-- A run that was dropped stays dropped: should it get the device, its turns lead to its end
without a command. -/
theorem step (h : Dropped c id) (hstep : Step d c c') : Dropped c' id := by
  obtain ⟨job, hjob, hdropped⟩ := h.job
  constructor
  · rcases hstep.job_cases hjob with ⟨cancelled, hjob', hkept⟩ | ⟨_, hjob'⟩ | ⟨cancelAt, _, hjob'⟩
    · exact ⟨_, hjob', hkept hdropped.cancelled, hdropped.machine, hdropped.phase⟩
    · exact ⟨_, hjob', hdropped.cancelled, hdropped.machine, .inr (.inl rfl)⟩
    · exact ⟨_, hjob', (hdropped.turn _ _ _).1⟩
  · intro entry hentry hsame
    rcases hstep.mem_made hentry with hold | ⟨job', _, hjob', hcall⟩
    · exact h.silent entry hold hsame
    · rw [hsame] at hjob'
      cases hjob.symm.trans hjob'
      cases hcall.symm.trans hdropped.machine.call?_eq_none

/-- It stays so in the long run, by induction on what has happened. -/
theorem reaches (h : Dropped c id) (hreach : Reaches d c c') : Dropped c' id := by
  induction hreach with
  | refl => exact h
  | tail _ hstep ih => exact ih.step hstep

end Dropped

/-- Whatever happens to an interpreter, at most one run holds the device, the calls come run by run and
only the last run that got the device may go on. Every started run but the active one is cancelled, and
after a stop all are. A run that is cancelled while it waits never makes a call, and the device only
lets it report that it was cancelled before its first command. -/
theorem runs_serialized (settings : Settings) (d : Device σ) (device : σ) {c : Chronicle σ}
    (hreach : Reaches d (new settings device) c) :
    (∀ id id' job job', c.job? id = some job → c.job? id' = some job' →
      job.phase = .running → job'.phase = .running → id = id') ∧
    (c.interpreter.device.2 = c.made.map Prod.snd ∧
      c.made = (c.granted.flatMap fun id => c.made.filter (·.1 == id)) ∧ c.granted.Nodup ∧
      ∀ id ∈ c.granted.dropLast, ∃ job, c.job? id = some job ∧ job.IsOver) ∧
    ((∀ id ∈ c.started, ∃ job, c.job? id = some job ∧
        (c.interpreter.active ≠ some id → job.cancelled = true)) ∧
      (∀ id ∈ c.started, ∀ id' ∈ c.started, ∀ job job', c.job? id = some job → c.job? id' = some job' →
        job.cancelled = false → job'.cancelled = false → id = id') ∧
      (∀ id ∈ c.started, ∃ job, c.interpreter.stop.jobs[id]? = some job ∧ job.cancelled = true)) ∧
    ∀ id job, c.job? id = some job → job.phase = .waiting → job.cancelled = true →
      ∀ c', Reaches d c c' → (∀ entry ∈ c'.made, entry.1 ≠ id) ∧
        (∃ job', c'.job? id = some job' ∧ job'.machine.steps = 0 ∧
          (job'.phase = .waiting ∨ job'.phase = .running ∨
            job'.phase = .finished ⟨.cancelled, 0, [], []⟩)) ∧
        (c'.interpreter.holder = some id → ∀ cancelAt cancelAt', ∃ job',
          ((c'.interpreter.advance (d.logged cancelAt)).2.advance (d.logged cancelAt')).2.jobs[id]? =
            some job' ∧ job'.phase = .finished ⟨.cancelled, 0, [], []⟩) := by
  -- Both invariants hold at the beginning, and every operation keeps them.
  obtain ⟨horderly, hsuperseded⟩ : Orderly c ∧ Superseded c := by
    induction hreach with
    | refl => exact ⟨orderly_new settings device, nofun⟩
    | tail _ hstep ih => exact ⟨ih.1.step hstep, ih.2.step hstep⟩
  refine ⟨?_, ⟨horderly.listed, horderly.grouped, horderly.once, ?_⟩,
    ⟨hsuperseded, ?_, hsuperseded.stop⟩, ?_⟩
  · intro id id' job job' hjob hjob' hrunning hrunning'
    have hholds := (horderly.holder id).mpr ⟨job, hjob, hrunning⟩
    have hholds' := (horderly.holder id').mpr ⟨job', hjob', hrunning'⟩
    exact Option.some.inj (hholds.symm.trans hholds')
  · intro id hbefore
    obtain ⟨job, hjob, hpast⟩ := (horderly.granted id).mp ((List.dropLast_sublist _).subset hbefore)
    refine ⟨job, hjob, hpast, fun hrunning => ?_⟩
    have hholder := (horderly.holder id).mpr ⟨job, hjob, hrunning⟩
    obtain ⟨before, hgranted, hnot⟩ := horderly.exists_before hholder
    rw [hgranted, List.dropLast_concat] at hbefore
    exact hnot hbefore
  · intro id hid id' hid' job job' hjob hjob' hgoes hgoes'
    have hactive := hsuperseded.active hid hjob hgoes
    have hactive' := hsuperseded.active hid' hjob' hgoes'
    exact Option.some.inj (hactive.symm.trans hactive')
  · intro id job hjob hwaiting hcancelled c' hlater
    have hdropped := (Dropped.of_waiting horderly hjob hwaiting hcancelled).reaches hlater
    obtain ⟨job', hjob', hjobDropped⟩ := hdropped.job
    refine ⟨hdropped.silent, ⟨job', hjob', hjobDropped.machine.steps, hjobDropped.phase⟩, ?_⟩
    intro hholder cancelAt cancelAt'
    exact hjobDropped.advance_twice hholder hjob' _ _

/-- Two runs are started before the first gets the device. The first is cancelled when it gets it, and
reports so within two turns. -/
theorem replaced_run_dropped :
    let log text : List Command := [.leaf 1 (.log text)]
    ∃ c, Reaches Rehearsal.device (new Settings.default (.plain (.new [] [] false))) c ∧
      c.started = [0, 1] ∧ c.interpreter.active = some 1 ∧ c.interpreter.holder = some 0 ∧
      (∃ job, c.job? 0 = some job ∧ job.machine.frames = [.sequence 0 (log "first") 0]) ∧
      ∃ job', ((c.interpreter.advance (Rehearsal.device.logged none)).2.advance
          (Rehearsal.device.logged none)).2.jobs[0]? = some job' ∧
        job'.phase = .finished ⟨.cancelled, 0, [], []⟩ := by
  intro log
  have hfirst := Step.start (d := Rehearsal.device)
    (c := new Settings.default (.plain (.new [] [] false))) (log "first")
  have hstarted := (Relation.ReflTransGen.single hfirst).tail (Step.start (log "second"))
  refine ⟨_, hstarted.tail (@Step.acquire _ _ _ 0 _ rfl rfl rfl), rfl, rfl, rfl, ⟨_, rfl, rfl⟩, ?_⟩
  have hlate := (runs_serialized Settings.default Rehearsal.device (.plain (.new [] [] false)) hstarted).2.2.2
  obtain ⟨_, _, hreports⟩ := hlate 0 _ rfl rfl rfl _ (.single (@Step.acquire _ _ _ 0 _ rfl rfl rfl))
  exact hreports rfl none none

end Chronicle

end TouchScript
