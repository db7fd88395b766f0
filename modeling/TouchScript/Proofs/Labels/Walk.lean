import TouchScript.Proofs.Machine.Course

namespace TouchScript

/-- A sequence that is being walked: its scope, its commands and the frames around it. They stay the
same as long as the walk goes on, whatever happens inside of the sequence meanwhile. -/
structure Walk where
  scope : Nat
  commands : List Command
  outer : List Frame

namespace Walk

/-- The frames of a machine that is at a place of the sequence. -/
def frames (w : Walk) (index : Nat) : List Frame :=
  .sequence w.scope w.commands index :: w.outer

/-- The sequence is one of those that are being walked. -/
def In (w : Walk) (frames : List Frame) : Prop :=
  ∃ index, w.frames index <:+ frames

namespace In

variable {w : Walk} {frame : Frame} {frames outer : List Frame}

/-- The innermost sequence is being walked. -/
theorem head (w : Walk) (index : Nat) : w.In (w.frames index) :=
  ⟨index, List.suffix_refl _⟩

/-- A walk goes on while more frames are above it. -/
theorem cons (h : w.In outer) : w.In (frame :: outer) := by
  obtain ⟨index, hsuffix⟩ := h
  exact ⟨index, hsuffix.trans (List.suffix_cons frame outer)⟩

/-- The frames around a walk are fewer than all frames. -/
theorem length_lt (h : w.In frames) : w.outer.length < frames.length := by
  obtain ⟨index, hsuffix⟩ := h
  exact hsuffix.length_le

end In

variable {w : Walk} {outer : List Frame}

/-- A walk is that of the innermost frame, or one of those outside. -/
theorem in_cons_iff {frame : Frame} : w.In (frame :: outer) ↔
    (∃ index, frame = .sequence w.scope w.commands index ∧ outer = w.outer) ∨ w.In outer := by
  simp only [In, frames, List.suffix_cons_iff, List.cons.injEq, exists_or]
  exact or_congr_left (exists_congr fun index => and_congr eq_comm eq_comm)

/-- Above a sequence its own walk comes to those outside. -/
@[simp]
theorem in_sequence_iff {scope index : Nat} {commands : List Command} :
    w.In (.sequence scope commands index :: outer) ↔ w = ⟨scope, commands, outer⟩ ∨ w.In outer := by
  obtain ⟨wscope, wcommands, wouter⟩ := w
  rw [in_cons_iff]
  simp only [Frame.sequence.injEq, Walk.mk.injEq]
  refine or_congr_left ⟨?_, ?_⟩
  · rintro ⟨place, ⟨rfl, rfl, _⟩, rfl⟩
    exact ⟨rfl, rfl, rfl⟩
  · rintro ⟨rfl, rfl, rfl⟩
    exact ⟨index, ⟨rfl, rfl, rfl⟩, rfl⟩

/-- A loop is not a walk. -/
theorem in_loop_iff {frame : Frame} (hloop : frame.IsLoop) : w.In (frame :: outer) ↔ w.In outer := by
  rw [in_cons_iff]
  refine or_iff_right ?_
  rintro ⟨index, rfl, _⟩
  exact hloop

/-- A call is not a walk. -/
@[simp]
theorem in_call_iff {floor : Nat} : w.In (.call floor :: outer) ↔ w.In outer := by
  rw [in_cons_iff]
  refine or_iff_right ?_
  rintro ⟨index, hframe, _⟩
  cases hframe

@[simp]
theorem not_in_nil : ¬ w.In [] := by
  rintro ⟨index, hsuffix⟩
  cases List.suffix_nil.mp hsuffix

end Walk

namespace Frame

/-- Of the walks in reach, the innermost one that has something at the name has it at this target. -/
structure Leads (K : Walk → String → Nat → Prop) (frames : List Frame) (floor : Nat) (name : String)
    (target : LabelTarget) : Prop where
  floor : floor ≤ target.scope
  found : ∃ w, w.In frames ∧ w.scope = target.scope ∧ K w name target.index
  inner : ∀ w, w.In frames → target.scope < w.scope → ∀ index, ¬ K w name index

section Leads

variable {K : Walk → String → Nat → Prop} {outer : List Frame} {floor scope index : Nat} {name : String}
  {commands : List Command} {target : LabelTarget}

/-- Where a name leads depends on the walks alone. -/
theorem Leads.of_walks {frames other : List Frame} (h : Leads K frames floor name target)
    (hwalks : ∀ w : Walk, w.In frames ↔ w.In other) : Leads K other floor name target := by
  obtain ⟨hfloor, ⟨w, hin, hfound⟩, hinner⟩ := h
  exact ⟨hfloor, ⟨w, (hwalks w).mp hin, hfound⟩, fun w hin => hinner w ((hwalks w).mpr hin)⟩

theorem leads_congr {frames other : List Frame} (hwalks : ∀ w : Walk, w.In frames ↔ w.In other) :
    Leads K frames floor name target ↔ Leads K other floor name target :=
  ⟨fun h => h.of_walks hwalks, fun h => h.of_walks fun w => (hwalks w).symm⟩

/-- A sequence out of reach keeps all sequences around it out of reach. -/
theorem not_leads_of_lt (houter : ∀ w : Walk, w.In outer → w.scope < scope) (hreach : scope < floor) :
    ¬ Leads K (.sequence scope commands index :: outer) floor name target := by
  rintro ⟨hfloor, ⟨w, hin, hscope, _⟩, _⟩
  rcases Walk.in_sequence_iff.mp hin with rfl | hrest
  · have hsame : scope = target.scope := hscope
    omega
  · have hless := houter w hrest
    omega

/-- What the innermost sequence has hides what the sequences around it have. -/
theorem leads_sequence_iff (houter : ∀ w : Walk, w.In outer → w.scope < scope) {place : Nat}
    (honly : ∀ other, K ⟨scope, commands, outer⟩ name other ↔ place = other) :
    Leads K (.sequence scope commands index :: outer) floor name target ↔
      floor ≤ scope ∧ target = ⟨scope, place⟩ := by
  have hhead : Walk.In ⟨scope, commands, outer⟩ (.sequence scope commands index :: outer) :=
    Walk.in_sequence_iff.mpr (.inl rfl)
  constructor
  · rintro ⟨hfloor, ⟨w, hin, hscope, hfound⟩, hinner⟩
    rcases Walk.in_sequence_iff.mp hin with rfl | hrest
    · obtain rfl : scope = target.scope := hscope
      exact ⟨hfloor, by rw [(honly _).mp hfound]⟩
    · have hless : target.scope < scope := hscope ▸ houter w hrest
      exact absurd ((honly place).mpr rfl) (hinner _ hhead hless place)
  · rintro ⟨hfloor, rfl⟩
    refine ⟨hfloor, ⟨_, hhead, rfl, (honly place).mpr rfl⟩, fun w hin hless => ?_⟩
    rcases Walk.in_sequence_iff.mp hin with rfl | hrest
    · exact absurd hless (Nat.lt_irrefl _)
    · exact absurd (houter w hrest) (Nat.lt_asymm hless)

/-- An innermost sequence that has nothing does not count. -/
theorem leads_sequence_iff_of_not (hnone : ∀ place, ¬ K ⟨scope, commands, outer⟩ name place) :
    Leads K (.sequence scope commands index :: outer) floor name target ↔
      Leads K outer floor name target := by
  constructor
  · rintro ⟨hfloor, ⟨w, hin, hscope, hfound⟩, hinner⟩
    rcases Walk.in_sequence_iff.mp hin with rfl | hrest
    · exact absurd hfound (hnone _)
    · exact ⟨hfloor, ⟨w, hrest, hscope, hfound⟩, fun w hin => hinner w hin.cons⟩
  · rintro ⟨hfloor, ⟨w, hin, hfound⟩, hinner⟩
    refine ⟨hfloor, ⟨w, hin.cons, hfound⟩, fun w hin hless => ?_⟩
    rcases Walk.in_sequence_iff.mp hin with rfl | hrest
    · exact hnone
    · exact hinner w hrest hless

/-- A loop is passed over when a label is looked for. -/
theorem leads_loop_iff {frame : Frame} (hloop : frame.IsLoop) :
    Leads K (frame :: outer) floor name target ↔ Leads K outer floor name target :=
  leads_congr fun _ => Walk.in_loop_iff hloop

/-- So is a call, as the floor tells what can be reached. -/
theorem leads_call_iff {before : Nat} :
    Leads K (.call before :: outer) floor name target ↔ Leads K outer floor name target :=
  leads_congr fun _ => Walk.in_call_iff

end Leads

/-- Every sequence among the frames has a table of its own, which fits its walk, and its scope counts
the sequences around it. -/
inductive Tabled (P : Walk → LabelTable → Prop) : List Frame → List LabelTable → Prop where
  | empty : Tabled P [] []
  | sequence {outer : List Frame} {tables : List LabelTable} {commands : List Command} {index : Nat}
      {table : LabelTable} (hfits : P ⟨tables.length, commands, outer⟩ table)
      (houter : Tabled P outer tables) :
      Tabled P (.sequence tables.length commands index :: outer) (table :: tables)
  | loop {frame : Frame} {outer : List Frame} {tables : List LabelTable} (hloop : frame.IsLoop)
      (houter : Tabled P outer tables) : Tabled P (frame :: outer) tables
  | call {floor : Nat} {outer : List Frame} {tables : List LabelTable} (houter : Tabled P outer tables) :
      Tabled P (.call floor :: outer) tables

namespace Tabled

variable {P Q : Walk → LabelTable → Prop} {frames outer : List Frame} {tables : List LabelTable}

/-- The innermost sequence has the innermost table, which fits its walk, and its scope is the number
of the others. -/
theorem of_sequence {scope index : Nat} {commands : List Command}
    (h : Tabled P (.sequence scope commands index :: outer) tables) :
    ∃ table rest, tables = table :: rest ∧ scope = rest.length ∧ P ⟨scope, commands, outer⟩ table ∧
      Tabled P outer rest := by
  cases h with
  | sequence hfits houter => exact ⟨_, _, rfl, rfl, hfits, houter⟩
  | loop hloop _ => exact hloop.elim

/-- A loop has no table. -/
theorem of_loop {frame : Frame} (h : Tabled P (frame :: outer) tables) (hloop : frame.IsLoop) :
    Tabled P outer tables := by
  cases h with
  | sequence _ _ => exact hloop.elim
  | loop _ houter => exact houter
  | call _ => exact hloop.elim

/-- A call has no table. -/
theorem of_call {floor : Nat} (h : Tabled P (.call floor :: outer) tables) : Tabled P outer tables := by
  cases h with
  | loop hloop _ => exact hloop.elim
  | call houter => exact houter

/-- Where the place of a sequence changes, the tables stay. -/
theorem move_index {scope index : Nat} {commands : List Command}
    (h : Tabled P (.sequence scope commands index :: outer) tables) (other : Nat) :
    Tabled P (.sequence scope commands other :: outer) tables := by
  cases h with
  | sequence hfits houter => exact .sequence hfits houter
  | loop hloop _ => exact hloop.elim

/-- Only the tables of the walks that are going on have to fit. -/
theorem mono (h : Tabled P frames tables) (hfits : ∀ w table, w.In frames → P w table → Q w table) :
    Tabled Q frames tables := by
  induction h with
  | empty => exact .empty
  | @sequence outer tables commands index table hwalk houter ih =>
    have hhead : Walk.In ⟨tables.length, commands, outer⟩ (.sequence tables.length commands index :: outer) :=
      Walk.In.head ⟨tables.length, commands, outer⟩ index
    exact .sequence (hfits _ _ hhead hwalk) (ih fun w known hin => hfits w known hin.cons)
  | loop hloop houter ih => exact .loop hloop (ih fun w known hin => hfits w known hin.cons)
  | call houter ih => exact .call (ih fun w known hin => hfits w known hin.cons)

/-- A walk has one of the tables. -/
theorem scope_lt (h : Tabled P frames tables) {w : Walk} (hin : w.In frames) : w.scope < tables.length := by
  induction h with
  | empty => exact absurd hin Walk.not_in_nil
  | @sequence outer tables commands index table hwalk houter ih =>
    rcases Walk.in_sequence_iff.mp hin with rfl | hrest
    · exact Nat.lt_succ_self _
    · exact Nat.lt_succ_of_lt (ih hrest)
  | loop hloop _ ih => exact ih ((Walk.in_loop_iff hloop).mp hin)
  | call _ ih => exact ih (Walk.in_call_iff.mp hin)

/-- Different walks have different scopes. -/
theorem eq_of_scope (h : Tabled P frames tables) {w other : Walk} (hin : w.In frames)
    (hother : other.In frames) (hscope : w.scope = other.scope) : w = other := by
  induction h with
  | empty => exact absurd hin Walk.not_in_nil
  | @sequence outer tables commands index table hwalk houter ih =>
    rcases Walk.in_sequence_iff.mp hin with rfl | hrest <;>
      rcases Walk.in_sequence_iff.mp hother with rfl | hrest'
    · rfl
    · exact absurd (houter.scope_lt hrest') (by rw [← hscope]; exact Nat.lt_irrefl _)
    · exact absurd (houter.scope_lt hrest) (by rw [hscope]; exact Nat.lt_irrefl _)
    · exact ih hrest hrest'
  | loop hloop _ ih => exact ih ((Walk.in_loop_iff hloop).mp hin) ((Walk.in_loop_iff hloop).mp hother)
  | call _ ih => exact ih (Walk.in_call_iff.mp hin) (Walk.in_call_iff.mp hother)

/-- Every scope belongs to a walk that is going on. -/
theorem exists_walk (h : Tabled P frames tables) {scope : Nat} (hscope : scope < tables.length) :
    ∃ w table, w.scope = scope ∧ w.In frames ∧ P w table := by
  induction h with
  | empty => exact absurd hscope (Nat.not_lt_zero _)
  | @sequence outer tables commands index table hwalk houter ih =>
    rcases Nat.lt_succ_iff_lt_or_eq.mp hscope with hless | rfl
    · obtain ⟨w, known, hw, hin, hknown⟩ := ih hless
      exact ⟨w, known, hw, hin.cons, hknown⟩
    · exact ⟨_, table, rfl, Walk.in_sequence_iff.mpr (.inl rfl), hwalk⟩
  | loop _ _ ih | call _ ih =>
    obtain ⟨w, known, hw, hin, hknown⟩ := ih hscope
    exact ⟨w, known, hw, hin.cons, hknown⟩

/-- A search finds the innermost of the walks in reach whose table has the name. -/
theorem search_eq_some_iff {K : Walk → String → Nat → Prop}
    (h : Tabled (fun w table => ∀ name index, table.get? name = some index ↔ K w name index) frames tables)
    (floor : Nat) (name : String) (target : LabelTarget) :
    LabelScopes.search floor name tables = some target ↔ Leads K frames floor name target := by
  induction h with
  | empty =>
    refine iff_of_false nofun ?_
    rintro ⟨_, ⟨w, hin, _⟩, _⟩
    exact Walk.not_in_nil hin
  | @sequence outer tables commands index table hwalk houter ih =>
    have houterScopes (w : Walk) (hin : w.In outer) : w.scope < tables.length := houter.scope_lt hin
    rw [LabelScopes.search]
    split
    next hreach => exact iff_of_false nofun (not_leads_of_lt houterScopes hreach)
    next hreach =>
      split
      next place hplace =>
        have honly (other : Nat) : K ⟨tables.length, commands, outer⟩ name other ↔ place = other := by
          rw [← hwalk, hplace, Option.some.injEq]
        rw [leads_sequence_iff houterScopes honly, Option.some.injEq, eq_comm]
        exact (and_iff_right (Nat.not_lt.mp hreach)).symm
      next hnone =>
        have hnowhere (place : Nat) : ¬ K ⟨tables.length, commands, outer⟩ name place := by
          rw [← hwalk, hnone]
          exact nofun
        rw [ih, leads_sequence_iff_of_not hnowhere]
  | loop hloop _ ih => rw [ih, leads_loop_iff hloop]
  | call _ ih => rw [ih, leads_call_iff]

/-- What a move does to walks and tables where no label is executed: a walk that goes on keeps its
table, and a walk that begins has the table that its sequence begins with. -/
theorem move {settings : Settings} {s s' : Skeleton} (h : Tabled P s.frames s.labels.tables)
    (hmove : s.Move settings s')
    (hkept : ∀ w table, w.In s'.frames → P w table → Q w table)
    (hnew : ∀ w : Walk, s.frames.length ≤ w.outer.length → s'.control = .fetch → s'.frames = w.frames 0 →
      Q w (Machine.initialLabels settings w.commands))
    (hlabel : ∀ w : Walk, ∀ index line name, s.control = .fetch → s.frames = w.frames index →
      w.commands[index]? = some (.leaf line (.label name)) → s'.frames ≠ s.frames) :
    Tabled Q s'.frames s'.labels.tables := by
  -- A table changes only where a label is registered, which `hlabel` rules out.
  cases hmove with
  | finish _ hframes _ | unwind _ hframes _ _ =>
    rw [hframes] at h
    obtain ⟨table, rest, htables, _, _, houter⟩ := h.of_sequence
    simp only [LabelScopes.pop, htables, List.tail_cons]
    exact houter.mono hkept
  | register _ hfetch hframes hcommand =>
    exact absurd rfl (hlabel ⟨_, _, _⟩ _ _ _ hfetch hframes hcommand)
  | call _ _ _ _ =>
    refine .sequence (hnew ⟨_, _, _⟩ (Nat.le_succ _) rfl rfl) (.call ?_)
    exact h.mono fun w table hin => hkept w table (Walk.In.cons (Walk.In.cons hin))
  | branch _ _ _ | pass _ _ =>
    refine .sequence (hnew ⟨_, _, _⟩ (Nat.le_refl _) rfl rfl) ?_
    exact h.mono fun w table hin => hkept w table hin.cons
  | loop _ _ | counted _ _ =>
    exact .loop trivial (h.mono fun w table hin => hkept w table hin.cons)
  | count _ hframes _ =>
    refine .sequence (hnew ⟨_, _, _⟩ (by simp [hframes]) rfl rfl) (.loop trivial ?_)
    rw [hframes] at h
    exact (h.of_loop trivial).mono fun w table hin => hkept w table (Walk.In.cons (Walk.In.cons hin))
  | exit _ hframes hloop _ | interrupt _ hframes hloop _ =>
    rw [hframes] at h
    exact (h.of_loop hloop).mono hkept
  | advance _ hframes | land _ hframes =>
    rw [hframes] at h
    exact (h.move_index _).mono hkept
  | leaveCall _ hframes =>
    rw [hframes] at h
    exact h.of_call.mono hkept
  | _ => exact h.mono hkept

end Tabled

end Frame

end TouchScript
