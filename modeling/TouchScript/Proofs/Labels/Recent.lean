import TouchScript.Proofs.Labels.Lexical
import TouchScript.Proofs.Labels.Walk
import TouchScript.Proofs.Machine.Ledger

namespace TouchScript

namespace Course

variable {settings : Settings} {commands : List Command} (c : Course settings commands)

/-- A turn executes a label that stands directly in the sequence of a walk. -/
def ExecutesLabel (n : Nat) (w : Walk) (name : String) (index : Nat) : Prop :=
  (c.state n).frames = w.frames index ∧ ∃ line, c.Dispatches n (.leaf line (.label name))

/-- A walk is going on at turn `n`, and it has begun at turn `k`. A sequence that is entered again,
by another pass of its loop or another call of its function, begins another walk. -/
structure LiveSince (k n : Nat) (w : Walk) : Prop where
  le : k ≤ n
  control : (c.state k).control = .fetch
  frames : (c.state k).frames = w.frames 0
  fresh : ∀ j, j + 1 = k → ¬ w.In (c.state j).frames
  lasts : ∀ j, k ≤ j → j ≤ n → w.In (c.state j).frames

/-- The place at which a walk that has begun at turn `k` has executed a label last before turn `n`. -/
def LastLabel (k n : Nat) (w : Walk) (name : String) (index : Nat) : Prop :=
  ∃ j, k ≤ j ∧ j < n ∧ c.ExecutesLabel j w name index ∧
    ∀ i, j < i → i < n → ∀ other, ¬ c.ExecutesLabel i w name other

/-- A table holds the labels that the walk has executed, each with its last place. -/
def Remembers (n : Nat) (w : Walk) (table : LabelTable) : Prop :=
  ∃ k, c.LiveSince k n w ∧ ∀ name index, table.get? name = some index ↔ c.LastLabel k n w name index

variable {c} {k n : Nat} {w : Walk} {table : LabelTable} {name : String}

/-- A walk has begun only once. -/
theorem LiveSince.unique {j : Nat} (h : c.LiveSince k n w) (hother : c.LiveSince j n w) : k = j := by
  have hnever {a b : Nat} (ha : c.LiveSince a n w) (hb : c.LiveSince b n w) : ¬ a < b := by
    intro hlt
    have hin := ha.lasts (b - 1) (by omega) (by have hle := hb.le; omega)
    exact hb.fresh (b - 1) (by omega) hin
  exact Nat.le_antisymm (Nat.not_lt.mp (hnever hother h)) (Nat.not_lt.mp (hnever h hother))

/-- A walk that is still among the frames goes on. -/
theorem LiveSince.succ (h : c.LiveSince k n w) (hin : w.In (c.state (n + 1)).frames) :
    c.LiveSince k (n + 1) w where
  le := Nat.le_succ_of_le h.le
  control := h.control
  frames := h.frames
  fresh := h.fresh
  lasts j hlow hhigh := by
    rcases Nat.le_succ_iff.mp hhigh with hle | rfl
    · exact h.lasts j hlow hle
    · exact hin

/-- A turn that executes no label of a name leaves the last place of the name. -/
theorem lastLabel_succ_of_not (hnot : ∀ place, ¬ c.ExecutesLabel n w name place) (index : Nat) :
    c.LastLabel k (n + 1) w name index ↔ c.LastLabel k n w name index := by
  constructor
  · rintro ⟨j, hlow, hhigh, hexecutes, hlast⟩
    rcases Nat.lt_succ_iff_lt_or_eq.mp hhigh with hlt | rfl
    · exact ⟨j, hlow, hlt, hexecutes, fun i hbehind hlt => hlast i hbehind (Nat.lt_succ_of_lt hlt)⟩
    · exact absurd hexecutes (hnot index)
  · rintro ⟨j, hlow, hhigh, hexecutes, hlast⟩
    refine ⟨j, hlow, Nat.lt_succ_of_lt hhigh, hexecutes, fun i hbehind hlt => ?_⟩
    rcases Nat.lt_succ_iff_lt_or_eq.mp hlt with hless | rfl
    · exact hlast i hbehind hless
    · exact hnot

/-- A turn that executes a label makes its place the last one. -/
theorem lastLabel_succ_of_executes {place : Nat} (hle : k ≤ n) (hexecutes : c.ExecutesLabel n w name place)
    (index : Nat) : c.LastLabel k (n + 1) w name index ↔ place = index := by
  constructor
  · rintro ⟨j, hlow, hhigh, hearlier, hlast⟩
    rcases Nat.lt_succ_iff_lt_or_eq.mp hhigh with hlt | rfl
    · exact absurd hexecutes (hlast n hlt (Nat.lt_succ_self n) place)
    · obtain ⟨hhead, _⟩ := List.cons.inj (hexecutes.1.symm.trans hearlier.1)
      exact (Frame.sequence.inj hhead).2.2
  · rintro rfl
    exact ⟨n, hle, Nat.lt_succ_self n, hexecutes, fun i hbehind hlt => absurd hlt (by omega)⟩

/-- While a walk executes no label its table stays as it is. -/
theorem Remembers.succ (h : c.Remembers n w table) (hin : w.In (c.state (n + 1)).frames)
    (hnone : ∀ name index, ¬ c.ExecutesLabel n w name index) : c.Remembers (n + 1) w table := by
  obtain ⟨k, hlive, htable⟩ := h
  refine ⟨k, hlive.succ hin, fun name index => ?_⟩
  rw [htable, lastLabel_succ_of_not (hnone name)]

/-- A label that is executed is entered into the table of its walk. -/
theorem Remembers.set {index : Nat} (h : c.Remembers n w table) (hin : w.In (c.state (n + 1)).frames)
    (hexecutes : c.ExecutesLabel n w name index) : c.Remembers (n + 1) w (table.set name index) := by
  obtain ⟨k, hlive, htable⟩ := h
  refine ⟨k, hlive.succ hin, fun other place => ?_⟩
  rw [Bindings.get?_set]
  split
  next hname =>
    subst hname
    rw [lastLabel_succ_of_executes hlive.le hexecutes, Option.some.injEq]
  next hname =>
    have hnot (place : Nat) : ¬ c.ExecutesLabel n w other place := by
      rintro ⟨_, line, hdispatch⟩
      obtain ⟨_, first, hlabel⟩ := hexecutes
      cases hlabel.unique hdispatch
      exact hname rfl
    rw [htable, lastLabel_succ_of_not hnot]

/-- A walk that begins has executed nothing. -/
theorem remembers_nil (hcontrol : (c.state n).control = .fetch) (hframes : (c.state n).frames = w.frames 0)
    (hfresh : ∀ j, j + 1 = n → ¬ w.In (c.state j).frames) : c.Remembers n w [] := by
  have hlasts (j : Nat) (hlow : n ≤ j) (hhigh : j ≤ n) : w.In (c.state j).frames := by
    obtain rfl := Nat.le_antisymm hhigh hlow
    rw [hframes]
    exact Walk.In.head w 0
  have hnothing (name : String) (index : Nat) : ¬ c.LastLabel n n w name index := by
    rintro ⟨j, hlow, hhigh, _⟩
    omega
  refine ⟨n, ⟨Nat.le_refl n, hcontrol, hframes, hfresh, hlasts⟩, fun name index => ?_⟩
  simp [Bindings.get?, hnothing]

variable (c)

/-- A machine that looks at a label executes it or leaves the sequence. -/
theorem executesLabel_of_frames {index line : Nat} (hcontrol : (c.state n).control = .fetch)
    (hframes : (c.state n).frames = w.frames index)
    (hcommand : w.commands[index]? = some (.leaf line (.label name)))
    (hstays : (c.state (n + 1)).frames = (c.state n).frames) : c.ExecutesLabel n w name index := by
  obtain ⟨σ, d, device, cancelled, hturn⟩ := c.turn n
  have hnext : c.state (n + 1) = (c.state n).fetch settings cancelled := by rw [hturn, Machine.turn, hcontrol]
  obtain ⟨scope, sequence, place, outer, hfound, ⟨command, hcurrent, hdispatch⟩ | ⟨_, flow, hexit⟩⟩ :=
    Machine.fetch_cases settings hcontrol (c.poised n) cancelled
  · obtain ⟨hhead, _⟩ := List.cons.inj (hframes.symm.trans hfound)
    obtain ⟨_, rfl, rfl⟩ := Frame.sequence.inj hhead
    cases hcommand.symm.trans hcurrent
    exact ⟨hframes, line, hcontrol, scope, _, index, outer, hfound, hcommand, hnext.trans hdispatch⟩
  · rw [hnext, hexit, hfound] at hstays
    exact absurd hstays.symm (List.cons_ne_self _ _)

/-- A label that is executed is registered, and the walk stays where it is. -/
theorem state_succ_of_label (hlazy : settings.labelResolution = .lazy) {index : Nat}
    (hexecutes : c.ExecutesLabel n w name index) :
    (c.state (n + 1)).frames = w.frames index ∧
      (c.state (n + 1)).context.labels = (c.state n).context.labels.register name index := by
  obtain ⟨hframes, line, _, scope, sequence, place, outer, hfound, _, hnext⟩ := hexecutes
  obtain ⟨hhead, _⟩ := List.cons.inj (hframes.symm.trans hfound)
  obtain ⟨_, _, rfl⟩ := Frame.sequence.inj hhead
  rw [Machine.dispatch_leaf, Machine.execute, hlazy] at hnext
  rw [hnext]
  exact ⟨hframes, rfl⟩

/-- At first there is one walk, which has executed nothing, and its table is empty. -/
theorem remembers_start (hlazy : settings.labelResolution = .lazy) :
    Frame.Tabled (c.Remembers 0) (c.state 0).frames (c.state 0).context.labels.tables := by
  have hframes : (c.state 0).frames = Walk.frames ⟨0, commands, []⟩ 0 := by
    rw [c.start]
    rfl
  have htables : (c.state 0).context.labels.tables = [[]] := by
    rw [c.start]
    simp [Machine.start, Machine.enter, Machine.withLabels, Machine.initialLabels, hlazy, Context.empty,
      LabelScopes.push, LabelScopes.empty]
  have hremembers : c.Remembers 0 ⟨0, commands, []⟩ [] :=
    remembers_nil (by rw [c.start]; rfl) hframes fun j hj => absurd hj (Nat.succ_ne_zero j)
  rw [hframes, htables]
  exact .sequence hremembers .empty

/-- A turn keeps the tables at what their walks have executed. -/
theorem remembers_step (hlazy : settings.labelResolution = .lazy)
    (h : Frame.Tabled (c.Remembers n) (c.state n).frames (c.state n).context.labels.tables) :
    Frame.Tabled (c.Remembers (n + 1)) (c.state (n + 1)).frames
      (c.state (n + 1)).context.labels.tables := by
  by_cases hlabel : ∃ w name index, c.ExecutesLabel n w name index
  · obtain ⟨⟨scope, sequence, outer⟩, name, index, hexecutes⟩ := hlabel
    obtain ⟨hframes, hlabels⟩ := c.state_succ_of_label hlazy hexecutes
    rw [hexecutes.1] at h
    obtain ⟨table, rest, htables, rfl, hremembers, houter⟩ := h.of_sequence
    have hin : Walk.In ⟨rest.length, sequence, outer⟩ (c.state (n + 1)).frames := by
      rw [hframes]
      exact Walk.In.head _ index
    have hregister : ((c.state n).context.labels.register name index).tables =
        table.set name index :: rest := by
      rw [LabelScopes.register, htables]
    rw [hframes, hlabels, hregister]
    refine .sequence (hremembers.set hin hexecutes) (houter.mono fun w known hinside hknown => ?_)
    refine hknown.succ (by rw [hframes]; exact hinside.cons) fun other place hother => ?_
    -- The label stands in the innermost sequence, and this walk is further out.
    obtain ⟨_, rfl⟩ := List.cons.inj (hexecutes.1.symm.trans hother.1)
    exact absurd hinside.length_lt (Nat.lt_irrefl _)
  · change Frame.Tabled _ (c.state (n + 1)).skeleton.frames (c.state (n + 1)).skeleton.labels.tables
    refine Frame.Tabled.move h (c.move n) ?_ ?_ ?_
    · intro w table hin hremembers
      exact hremembers.succ hin fun name index hexecutes => hlabel ⟨w, name, index, hexecutes⟩
    · intro w hlength hcontrol hframes
      rw [Machine.initialLabels, hlazy]
      refine remembers_nil hcontrol hframes fun j hj hin => ?_
      obtain rfl := Nat.succ.inj hj
      exact absurd hin.length_lt (Nat.not_lt.mpr hlength)
    · intro w index line name hcontrol hframes hcommand hstays
      exact hlabel ⟨w, name, index, c.executesLabel_of_frames hcontrol hframes hcommand hstays⟩

/-- Along every course each table holds the labels that its walk has executed, with their last
places. -/
theorem remembers (hlazy : settings.labelResolution = .lazy) (n : Nat) :
    Frame.Tabled (c.Remembers n) (c.state n).frames (c.state n).context.labels.tables := by
  induction n with
  | zero => exact c.remembers_start hlazy
  | succ n ih => exact c.remembers_step hlazy ih

/-- A label leads to `target`: of the walks above the floor, the innermost one that has executed the
label has executed it last there. -/
structure Recent (n : Nat) (name : String) (target : LabelTarget) : Prop where
  floor : (c.state n).context.labels.floor ≤ target.scope
  found : ∃ w k, w.scope = target.scope ∧ c.LiveSince k n w ∧ c.LastLabel k n w name target.index
  /-- No walk further inside has executed the label since it has begun. -/
  inner : ∀ w k, target.scope < w.scope → c.LiveSince k n w →
    ∀ j index, k ≤ j → j < n → ¬ c.ExecutesLabel j w name index

/-- A walk that has executed a label has executed it last at some place. -/
theorem exists_lastLabel {j index : Nat} (hlow : k ≤ j) (hhigh : j < n)
    (hexecutes : c.ExecutesLabel j w name index) : ∃ place, c.LastLabel k n w name place := by
  induction n with
  | zero => exact absurd hhigh (Nat.not_lt_zero j)
  | succ n ih =>
    by_cases hnow : ∃ place, c.ExecutesLabel n w name place
    · obtain ⟨place, hplace⟩ := hnow
      exact ⟨place, (lastLabel_succ_of_executes (by omega) hplace place).mpr rfl⟩
    · have hnot (place : Nat) : ¬ c.ExecutesLabel n w name place := fun hplace => hnow ⟨place, hplace⟩
      rcases Nat.lt_succ_iff_lt_or_eq.mp hhigh with hlt | rfl
      · obtain ⟨place, hplace⟩ := ih hlt
        exact ⟨place, (lastLabel_succ_of_not hnot place).mpr hplace⟩
      · exact absurd hexecutes (hnot index)

/-- A label that is looked for is found exactly if a walk in reach has executed it, in the innermost
such walk and at the last place. -/
theorem resolve_recent (hlazy : settings.labelResolution = .lazy) (n : Nat) (name : String)
    (target : LabelTarget) :
    (c.state n).context.labels.resolve name = some target ↔ c.Recent n name target := by
  have htabled : Frame.Tabled (fun w table => ∀ name index, table.get? name = some index ↔
      ∃ k, c.LiveSince k n w ∧ c.LastLabel k n w name index) (c.state n).frames
      (c.state n).context.labels.tables := by
    refine (c.remembers hlazy n).mono fun w table _ hremembers name index => ?_
    obtain ⟨k, hlive, htable⟩ := hremembers
    rw [htable]
    refine ⟨fun hlast => ⟨k, hlive, hlast⟩, ?_⟩
    rintro ⟨j, hother, hlast⟩
    obtain rfl := hlive.unique hother
    exact hlast
  rw [LabelScopes.resolve, htabled.search_eq_some_iff]
  constructor
  · rintro ⟨hfloor, ⟨w, _, hscope, k, hlive, hlast⟩, hinner⟩
    refine ⟨hfloor, ⟨w, k, hscope, hlive, hlast⟩, fun other j hless hother i index hlow hhigh hexecutes => ?_⟩
    obtain ⟨place, hplace⟩ := c.exists_lastLabel hlow hhigh hexecutes
    exact hinner other (hother.lasts n hother.le (Nat.le_refl n)) hless place ⟨j, hother, hplace⟩
  · rintro ⟨hfloor, ⟨w, k, hscope, hlive, hlast⟩, hinner⟩
    refine ⟨hfloor, ⟨w, hlive.lasts n hlive.le (Nat.le_refl n), hscope, k, hlive, hlast⟩, ?_⟩
    rintro other _ hless index ⟨j, hother, i, hlow, hhigh, hexecutes, _⟩
    exact hinner other j hless hother i index hlow hhigh hexecutes

/-- Every scope in use belongs to one walk, which has begun at some turn. -/
theorem exists_liveSince (hlazy : settings.labelResolution = .lazy) (n : Nat) {scope : Nat}
    (hscope : scope < (c.state n).context.labels.depth) :
    ∃ w k, w.scope = scope ∧ c.LiveSince k n w ∧
      ∀ other, other.In (c.state n).frames → other.scope = scope → other = w := by
  obtain ⟨w, table, rfl, hin, k, hlive, _⟩ := (c.remembers hlazy n).exists_walk hscope
  exact ⟨w, k, rfl, hlive, fun other hother hsame => (c.remembers hlazy n).eq_of_scope hother hin hsame⟩

/-- What a dispatched jump leads to when labels become known as they are executed. -/
structure JumpsRecently (n line : Nat) (label : String) : Prop where
  /-- The walk that has executed the label goes on where it has executed it last. -/
  found : ∀ target, c.Recent n label target → (c.state (n + 1)).errors = (c.state n).errors ∧
    (c.state (n + 1)).control = .leave (.jump target) ∧
    ∃ w k m, w.scope = target.scope ∧ c.LiveSince k n w ∧ n < m ∧ (c.state m).control = .fetch ∧
      (c.state m).frames = w.frames target.index ∧ (c.state m).steps = (c.state (n + 1)).steps
  /-- If no walk in reach has executed the label, the jump is reported. -/
  missing : (∀ target, ¬ c.Recent n label target) →
    (c.state (n + 1)).errors = (c.state n).errors.push (.labelNotFound line label) ∧
      (c.state (n + 1)).control = .leave .next ∧ (c.state (n + 1)).frames = (c.state n).frames

/-- A jump goes where the walks say, or fails if none of those in reach has executed the label. -/
theorem jumpsRecently (hlazy : settings.labelResolution = .lazy) {n line : Nat} {instruction : Instruction}
    {label : String} (hdispatch : c.Dispatches n (.leaf line instruction))
    (hjumps : instruction.JumpsTo (c.state n).context label) : c.JumpsRecently n line label := by
  obtain ⟨_, _, _, index, _, _, _, hnext⟩ := hdispatch
  rw [Machine.dispatch_jump settings _ hjumps] at hnext
  have hcontext : ((c.state n).counting (.leaf line instruction)).context = (c.state n).context := rfl
  refine ⟨fun target hrecent => ?_, fun hnowhere => ?_⟩
  · have hresolve := (c.resolve_recent hlazy n label target).mpr hrecent
    rw [Machine.jump, hcontext, hresolve] at hnext
    have hjump : (c.state (n + 1)).control = .leave (.jump target) := by
      rw [hnext]
      rfl
    have hsame : (c.state (n + 1)).frames = (c.state n).frames := by
      rw [hnext]
      rfl
    obtain ⟨_, hdepth, inner, owner, place, outer, _, hframes, hpasses, _⟩ :=
      LabelScopes.resolve_aligned (c.aligned_sound n) hresolve
    obtain ⟨w, k, hscope, hlive, hunique⟩ := c.exists_liveSince hlazy n hdepth
    have hin : Walk.In ⟨target.scope, owner, outer⟩ (c.state n).frames :=
      ⟨place, by rw [hframes]; exact List.suffix_append _ _⟩
    obtain rfl := hunique _ hin rfl
    obtain ⟨hfetch, hlanded, hsteps⟩ := c.jump_caught hjump (hsame.trans hframes) hpasses
    exact ⟨by rw [hnext]; rfl, hjump, _, k, _, rfl, hlive, by omega, hfetch, hlanded, hsteps⟩
  · have hresolve : (c.state n).context.labels.resolve label = none := by
      cases hfound : (c.state n).context.labels.resolve label with
      | none => rfl
      | some target => exact absurd ((c.resolve_recent hlazy n label target).mp hfound) (hnowhere target)
    rw [Machine.jump, hcontext, hresolve] at hnext
    rw [hnext]
    exact ⟨rfl, rfl, rfl⟩

/-- Where labels become known as they are executed, every scope in use is that of one walk, and a label
resolves at every point of a course to the innermost walk above the floor that has executed it since the
walk has begun, and there to the place where it was executed last. A dispatched jump resumes this walk
at this place, and it is reported if there is none. What earlier walks of the same sequence have
executed does not count. -/
theorem goto_recent (hlazy : settings.labelResolution = .lazy) (n : Nat) :
    (∀ scope, scope < (c.state n).context.labels.depth → ∃ w k, w.scope = scope ∧ c.LiveSince k n w ∧
      ∀ other, other.In (c.state n).frames → other.scope = scope → other = w) ∧
    (∀ name target, (c.state n).context.labels.resolve name = some target ↔ c.Recent n name target) ∧
    ∀ line instruction label, c.Dispatches n (.leaf line instruction) →
      instruction.JumpsTo (c.state n).context label → c.JumpsRecently n line label :=
  ⟨fun _ hscope => c.exists_liveSince hlazy n hscope, c.resolve_recent hlazy n,
    fun _ _ _ hdispatch hjumps => c.jumpsRecently hlazy hdispatch hjumps⟩

end Course

/-- A label that stands twice, and a loop around a jump to a label that is executed after the jump. The
loop is left for the label before it, and entered again. -/
def recentJumps : List Command :=
  [.leaf 1 (.label "b"), .leaf 2 (.label "b"),
    .loop 3 "1" [.leaf 4 (.goto "a"), .leaf 5 (.label "a"), .leaf 6 (.goto "b")]]

/-- The rehearsal of `recentJumps` in which labels become known as they are executed. -/
def recentCourse : Course { Settings.default with labelResolution := .lazy } recentJumps :=
  Run.course { Settings.default with labelResolution := .lazy } Rehearsal.device recentJumps
    (.plain (.new [] [] false)) false

/-- Of the two labels `b` the second one has been executed last. That the label `a` was executed when the
loop was walked first does not help the jump to it when the loop is walked again. -/
theorem recentCourse_jumps :
    recentCourse.Dispatches 8 (.leaf 5 (.label "a")) ∧
      recentCourse.Dispatches 10 (.leaf 6 (.goto "b")) ∧ recentCourse.Recent 10 "b" ⟨0, 1⟩ ∧
      (recentCourse.state 11).control = .leave (.jump ⟨0, 1⟩) ∧
      recentCourse.Dispatches 18 (.leaf 4 (.goto "a")) ∧ (∀ target, ¬ recentCourse.Recent 18 "a" target) ∧
      (recentCourse.state 19).errors = (recentCourse.state 18).errors.push (.labelNotFound 4 "a") := by
  have hback : recentCourse.Dispatches 10 (.leaf 6 (.goto "b")) := ⟨rfl, _, _, _, _, rfl, rfl, rfl⟩
  have hagain : recentCourse.Dispatches 18 (.leaf 4 (.goto "a")) := ⟨rfl, _, _, _, _, rfl, rfl, rfl⟩
  obtain ⟨_, hsomewhere, hfound⟩ := recentCourse.goto_recent rfl 10
  obtain ⟨_, hnowhere, hmissing⟩ := recentCourse.goto_recent rfl 18
  have hrecent : recentCourse.Recent 10 "b" ⟨0, 1⟩ := (hsomewhere "b" ⟨0, 1⟩).mp rfl
  have hnone (target : LabelTarget) : ¬ recentCourse.Recent 18 "a" target := by
    rw [← hnowhere]
    exact nofun
  exact ⟨⟨rfl, _, _, _, _, rfl, rfl, rfl⟩, hback, hrecent, ((hfound 6 _ "b" hback rfl).found _ hrecent).2.1,
    hagain, hnone, ((hmissing 4 _ "a" hagain rfl).missing hnone).1⟩

end TouchScript
