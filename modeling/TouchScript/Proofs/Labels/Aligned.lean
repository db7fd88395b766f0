import TouchScript.Proofs.Machine.Course

namespace TouchScript

/-- The place of the first label of a name in a sequence. -/
def firstLabel? (name : String) (commands : List Command) : Option Nat :=
  commands.findIdx? fun command => command.label? == some name

/-- The first label of a name is the first command, or the first one behind it. -/
theorem firstLabel?_cons (name : String) (command : Command) (rest : List Command) :
    firstLabel? name (command :: rest) =
      if command.label? = some name then some 0 else (firstLabel? name rest).map (· + 1) := by
  simp [firstLabel?, List.findIdx?_cons]

/-- A value that is only written where there is none comes after all that was there. -/
theorem Bindings.get?_setNew {α : Type} (b : Bindings α) (name : String) (value : α) (other : String) :
    (b.setNew name value).get? other =
      (b.get? other).or (if name = other then some value else none) := by
  unfold setNew
  split
  next old hold =>
    by_cases hname : name = other
    · subst hname
      simp [hold]
    · simp [hname]
  next hnone =>
    rw [get?_set]
    by_cases hname : name = other
    · subst hname
      simp [hnone]
    · simp [hname]

/-- Enters a command into a table of labels. -/
private def enterLabel (table : LabelTable) (entry : Command × Nat) : LabelTable :=
  match entry.1.label? with
  | some name => table.setNew name entry.2
  | none => table

private theorem get?_foldl_enterLabel (name : String) (commands : List Command) (first : Nat)
    (table : LabelTable) :
    Bindings.get? ((commands.zipIdx first).foldl enterLabel table) name =
      (table.get? name).or ((firstLabel? name commands).map (· + first)) := by
  induction commands generalizing first table with
  | nil => simp [firstLabel?]
  | cons command rest ih =>
    have hshift : (firstLabel? name rest).map (· + (first + 1)) =
        ((firstLabel? name rest).map (· + 1)).map (· + first) := by
      cases firstLabel? name rest with
      | none => rfl
      | some index => simp only [Option.map_some, Option.some.injEq]; omega
    rw [List.zipIdx_cons, List.foldl_cons, ih, firstLabel?_cons, hshift]
    cases hlabel : command.label? with
    | none => simp [enterLabel, hlabel]
    | some other =>
      simp only [enterLabel, hlabel, Bindings.get?_setNew]
      by_cases hname : other = name
      · subst hname
        cases table.get? other <;> simp
      · simp [hname]

/-- Collecting labels finds the first label of every name. -/
theorem get?_collectLabels (commands : List Command) (name : String) :
    (collectLabels commands).get? name = firstLabel? name commands := by
  have hcollect : collectLabels commands = commands.zipIdx.foldl enterLabel [] := rfl
  rw [hcollect, get?_foldl_enterLabel]
  simp [Bindings.get?]

namespace Frame

/-- The frames of a machine and its scopes agree: every sequence has a table that fits it, its scope
counts the sequences around it, and a call remembers the floor that held outside. -/
inductive Aligned (Fits : List Command → LabelTable → Prop) : List Frame → LabelScopes → Prop where
  | empty : Aligned Fits [] ⟨[], 0⟩
  | sequence {outer : List Frame} {tables : List LabelTable} {floor index : Nat}
      {commands : List Command} {table : LabelTable} (hfits : Fits commands table)
      (houter : Aligned Fits outer ⟨tables, floor⟩) :
      Aligned Fits (.sequence tables.length commands index :: outer) ⟨table :: tables, floor⟩
  | loop {frame : Frame} {outer : List Frame} {scopes : LabelScopes} (hloop : frame.IsLoop)
      (houter : Aligned Fits outer scopes) : Aligned Fits (frame :: outer) scopes
  | call {outer : List Frame} {tables : List LabelTable} {floor : Nat}
      (houter : Aligned Fits outer ⟨tables, floor⟩) :
      Aligned Fits (.call floor :: outer) ⟨tables, tables.length⟩

namespace Aligned

variable {Fits : List Command → LabelTable → Prop} {frames outer : List Frame} {scopes : LabelScopes}

/-- The innermost sequence has the innermost table, and its scope is the number of the others. -/
theorem of_sequence {scope index : Nat} {commands : List Command}
    (h : Aligned Fits (.sequence scope commands index :: outer) scopes) :
    ∃ table tables, scopes.tables = table :: tables ∧ scope = tables.length ∧ Fits commands table ∧
      Aligned Fits outer ⟨tables, scopes.floor⟩ := by
  cases h with
  | sequence hfits houter => exact ⟨_, _, rfl, rfl, hfits, houter⟩
  | loop hloop _ => exact hloop.elim

/-- A loop has no table. -/
theorem of_loop {frame : Frame} (h : Aligned Fits (frame :: outer) scopes) (hloop : frame.IsLoop) :
    Aligned Fits outer scopes := by
  cases h with
  | sequence _ _ => exact hloop.elim
  | loop _ houter => exact houter
  | call _ => exact hloop.elim

/-- A call has no table either. Nothing outside of it can be reached, and it remembers what could be
before. -/
theorem of_call {floor : Nat} (h : Aligned Fits (.call floor :: outer) scopes) :
    Aligned Fits outer ⟨scopes.tables, floor⟩ ∧ scopes.floor = scopes.tables.length := by
  cases h with
  | loop hloop _ => exact hloop.elim
  | call houter => exact ⟨houter, rfl⟩

/-- No more tables are out of reach than there are. -/
theorem floor_le (h : Aligned Fits frames scopes) : scopes.floor ≤ scopes.tables.length := by
  induction h with
  | empty => exact Nat.le_refl 0
  | sequence _ _ ih => exact Nat.le_succ_of_le ih
  | loop _ _ ih => exact ih
  | call _ _ => exact Nat.le_refl _

/-- Where the place of a sequence changes, the tables stay. -/
theorem move_index {scope index : Nat} {commands : List Command}
    (h : Aligned Fits (.sequence scope commands index :: outer) scopes) (other : Nat) :
    Aligned Fits (.sequence scope commands other :: outer) scopes := by
  cases h with
  | sequence hfits houter => exact .sequence hfits houter
  | loop hloop _ => exact hloop.elim

/-- Leaving a sequence drops its table. -/
theorem pop {scope index : Nat} {commands : List Command}
    (h : Aligned Fits (.sequence scope commands index :: outer) scopes) :
    Aligned Fits outer scopes.pop := by
  obtain ⟨table, tables, htables, _, _, houter⟩ := h.of_sequence
  rw [LabelScopes.pop, htables]
  exact houter

/-- A label that fits at the current place may be registered there. -/
theorem register {scope index : Nat} {commands : List Command} {name : String}
    (h : Aligned Fits (.sequence scope commands index :: outer) scopes)
    (hfits : ∀ table, Fits commands table → Fits commands (table.set name index)) :
    Aligned Fits (.sequence scope commands index :: outer) (scopes.register name index) := by
  cases h with
  | sequence htable houter => exact .sequence (hfits _ htable) houter
  | loop hloop _ => exact hloop.elim

/-- Frames and tables stay aligned, provided that a table fits its sequence when the sequence is
entered and still fits it after a label of the sequence has been executed. -/
theorem move {settings : Settings} {s s' : Skeleton} (h : Aligned Fits s.frames s.labels)
    (hmove : s.Move settings s')
    (hinitial : ∀ commands, Fits commands (Machine.initialLabels settings commands))
    (hregister : settings.labelResolution = .lazy → ∀ commands table index line name,
      commands[index]? = some (.leaf line (.label name)) → Fits commands table →
        Fits commands (table.set name index)) :
    Aligned Fits s'.frames s'.labels := by
  cases hmove with
  | finish _ hframes _ =>
    rw [hframes] at h
    exact h.pop
  | register hlazy _ hframes hcommand =>
    rw [hframes] at h ⊢
    exact h.register fun table => hregister hlazy _ table _ _ _ hcommand
  | call _ _ _ _ => exact .sequence (hinitial _) (.call h)
  | branch _ _ _ => exact .sequence (hinitial _) h
  | loop _ _ => exact .loop trivial h
  | counted _ _ => exact .loop trivial h
  | pass _ _ => exact .sequence (hinitial _) h
  | count _ hframes _ =>
    rw [hframes] at h
    exact .sequence (hinitial _) (.loop trivial (h.of_loop trivial))
  | exit _ hframes hloop _ =>
    rw [hframes] at h
    exact h.of_loop hloop
  | advance _ hframes =>
    rw [hframes] at h
    exact h.move_index _
  | land _ hframes =>
    rw [hframes] at h
    exact h.move_index _
  | unwind _ hframes _ _ =>
    rw [hframes] at h
    exact h.pop
  | interrupt _ hframes hloop _ =>
    rw [hframes] at h
    exact h.of_loop hloop
  | leaveCall _ hframes =>
    rw [hframes] at h
    exact h.of_call.1
  | _ => exact h

end Aligned

/-- Lets a jump through to the frames around it. Only the sequence that owns the scope catches the
jump, and a call would swallow it. -/
def Passes (target : LabelTarget) : Frame → Prop
  | .sequence scope _ _ => scope ≠ target.scope
  | .call _ => False
  | _ => True

/-- A loop hands every jump on. -/
theorem IsLoop.passes {frame : Frame} (hloop : frame.IsLoop) (target : LabelTarget) :
    frame.Passes target := by
  cases frame with
  | sequence _ _ _ => exact hloop.elim
  | loop _ _ => trivial
  | counted _ _ _ _ => trivial
  | call _ => exact hloop.elim

end Frame

namespace LabelScopes

/-- Nothing is found if all tables are out of reach. -/
theorem search_eq_none {floor : Nat} {tables : List LabelTable} (name : String)
    (hfloor : tables.length ≤ floor) : search floor name tables = none := by
  cases tables with
  | nil => rfl
  | cons table outer =>
    rw [search, if_pos]
    exact hfloor

/-- A label that is found belongs to a sequence of the current call: its scope lies between the
floor and the number of scopes, and only frames that let the jump through are inside of it. -/
theorem resolve_aligned {Fits : List Command → LabelTable → Prop} {frames : List Frame}
    {scopes : LabelScopes} (haligned : Frame.Aligned Fits frames scopes) {name : String}
    {target : LabelTarget} (hresolve : scopes.resolve name = some target) :
    scopes.floor ≤ target.scope ∧ target.scope < scopes.depth ∧
      ∃ inner owner index outer table,
        frames = inner ++ .sequence target.scope owner index :: outer ∧
        (∀ frame ∈ inner, frame.Passes target) ∧
        Fits owner table ∧ table.get? name = some target.index := by
  unfold resolve at hresolve
  -- The search goes through the tables as the induction goes through the frames.
  induction haligned with
  | empty => cases hresolve
  | @sequence outer tables floor index commands table hfits houter ih =>
    rw [search] at hresolve
    split at hresolve
    next => cases hresolve
    next hfloor =>
      split at hresolve
      next place hplace =>
        cases hresolve
        refine ⟨Nat.not_lt.mp hfloor, Nat.lt_succ_self _, [], commands, index, outer, table, rfl, ?_, hfits,
          hplace⟩
        simp
      next =>
        obtain ⟨hlow, hhigh, inner, owner, place, around, known, hframes, hpasses, hknown⟩ := ih hresolve
        have hscope : tables.length ≠ target.scope := Nat.ne_of_gt hhigh
        refine ⟨hlow, Nat.lt_succ_of_lt hhigh, .sequence tables.length commands index :: inner, owner,
          place, around, known, by rw [hframes]; rfl, ?_, hknown⟩
        rintro frame (_ | ⟨_, hmem⟩)
        · exact hscope
        · exact hpasses frame hmem
  | @loop frame outer scopes hloop houter ih =>
    obtain ⟨hlow, hhigh, inner, owner, place, around, known, hframes, hpasses, hknown⟩ := ih hresolve
    refine ⟨hlow, hhigh, frame :: inner, owner, place, around, known, by rw [hframes]; rfl, ?_, hknown⟩
    rintro other (_ | ⟨_, hmem⟩)
    · exact hloop.passes target
    · exact hpasses other hmem
  | call houter ih =>
    -- All tables outside of a call are below its floor.
    rw [search_eq_none name (Nat.le_refl _)] at hresolve
    cases hresolve

end LabelScopes

end TouchScript
