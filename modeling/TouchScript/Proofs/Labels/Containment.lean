import TouchScript.Proofs.Labels.Aligned

namespace TouchScript

/-- Every entry of a table is the place of a label of that name. -/
def LabelTable.Sound (commands : List Command) (table : LabelTable) : Prop :=
  ∀ name index, table.get? name = some index →
    ∃ line, commands[index]? = some (.leaf line (.label name))

/-- The labels collected from a sequence are in their places. -/
theorem sound_collectLabels (commands : List Command) :
    LabelTable.Sound commands (collectLabels commands) := by
  intro name index hget
  rw [get?_collectLabels, firstLabel?, List.findIdx?_eq_some_iff_getElem] at hget
  obtain ⟨hbound, hlabel, _⟩ := hget
  rw [List.getElem?_eq_getElem hbound]
  simp only [beq_iff_eq] at hlabel
  unfold Command.label? at hlabel
  split at hlabel
  next line other hcommand =>
    cases hlabel
    exact ⟨line, congrArg some hcommand⟩
  next => cases hlabel

/-- A sequence is entered with labels that are in their places, or with none. -/
theorem sound_initialLabels (settings : Settings) (commands : List Command) :
    LabelTable.Sound commands (Machine.initialLabels settings commands) := by
  unfold Machine.initialLabels
  split
  · exact sound_collectLabels commands
  · intro name index hget
    cases hget

/-- A label that is executed is registered at its place. -/
theorem LabelTable.Sound.set {commands : List Command} {table : LabelTable} {index line : Nat}
    {name : String} (hsound : LabelTable.Sound commands table)
    (hlabel : commands[index]? = some (.leaf line (.label name))) :
    LabelTable.Sound commands (table.set name index) := by
  intro other place hget
  rw [Bindings.get?_set] at hget
  split at hget
  next hname =>
    cases hget
    subst hname
    exact ⟨line, hlabel⟩
  next => exact hsound other place hget

namespace Skeleton

/-- A jump has just been produced by the current command, or is handed on by a frame that lets it
through, or the machine stands still. -/
theorem Move.of_jump {settings : Settings} {s s' : Skeleton} {target : LabelTarget}
    (hmove : s.Move settings s') (hcontrol : s'.control = .leave (.jump target)) :
    s' = s ∨
      (s.control = .fetch ∧ s' = { s with control := .leave (.jump target) } ∧
        ∃ line instruction label, s.current? = some (.leaf line instruction) ∧
          instruction.jumpLabel? = some label ∧ s.labels.resolve label = some target) ∨
      (s.control = .leave (.jump target) ∧
        ∃ frame, s.frames = frame :: s'.frames ∧ frame.Passes target) := by
  cases hmove with
  | idle _ => exact .inl rfl
  | finish _ _ hflow =>
    cases hcontrol
    rcases hflow with ⟨h, _⟩ | h <;> cases h
  | instruct _ _ hplain =>
    rcases hplain with h | h | h <;> cases hcontrol <;> cases h
  | jump hfetch hcommand hlabel htarget =>
    cases hcontrol
    exact .inr (.inl ⟨hfetch, rfl, _, _, _, hcommand, hlabel, htarget⟩)
  | resume _ hplain =>
    rcases hplain with h | h <;> cases hcontrol <;> cases h
  | exit _ _ _ hflow =>
    cases hcontrol
    rcases hflow with h | h <;> cases h
  | unwind hbefore hframes _ hother =>
    cases hcontrol
    exact .inr (.inr ⟨hbefore, _, hframes, fun hscope => hother target rfl hscope.symm⟩)
  | interrupt hbefore hframes hloop _ =>
    cases hcontrol
    exact .inr (.inr ⟨hbefore, _, hframes, hloop.passes target⟩)
  | @leaveCall _ _ flow _ _ => cases flow <;> cases hcontrol
  | _ => cases hcontrol

/-- A jump that is on its way will be caught: some frame owns its scope, and all frames inside of
that one let it through. -/
def JumpsLand (s : Skeleton) : Prop :=
  ∀ target, s.control = .leave (.jump target) →
    ∃ inner owner index outer, s.frames = inner ++ .sequence target.scope owner index :: outer ∧
      ∀ frame ∈ inner, frame.Passes target

/-- A jump on its way gets one frame nearer to the one that owns its scope, and a new jump has a
label that some frame in reach owns. -/
theorem JumpsLand.move {settings : Settings} {s s' : Skeleton} {Fits : List Command → LabelTable → Prop}
    (hlands : s.JumpsLand) (haligned : Frame.Aligned Fits s.frames s.labels)
    (hmove : s.Move settings s') : s'.JumpsLand := by
  intro target hcontrol
  rcases hmove.of_jump hcontrol with
    rfl | ⟨_, rfl, _, _, _, _, _, htarget⟩ | ⟨hbefore, frame, hframes, hpass⟩
  · exact hlands target hcontrol
  · obtain ⟨_, _, inner, owner, index, outer, _, hframes, hpasses, _⟩ :=
      LabelScopes.resolve_aligned haligned htarget
    exact ⟨inner, owner, index, outer, hframes, hpasses⟩
  · obtain ⟨inner, owner, index, outer, hsplit, hpasses⟩ := hlands target hbefore
    rw [hframes] at hsplit
    cases inner with
    | nil =>
      cases hsplit
      exact absurd rfl hpass
    | cons first inner =>
      obtain ⟨_, hrest⟩ := List.cons.inj hsplit
      exact ⟨inner, owner, index, outer, hrest, fun f hf => hpasses f (.tail _ hf)⟩

end Skeleton

namespace Course

variable {settings : Settings} {commands : List Command} (c : Course settings commands)

/-- Along every course the tables hold places of labels only, as labels are entered in no other way. -/
theorem aligned_sound (n : Nat) :
    Frame.Aligned LabelTable.Sound (c.state n).frames (c.state n).context.labels :=
  c.invariant (P := fun s => Frame.Aligned LabelTable.Sound s.frames s.labels)
    (.sequence (sound_initialLabels settings commands) .empty)
    (fun _ _ haligned hmove => haligned.move hmove (sound_initialLabels settings)
      fun _ _ _ _ _ _ hlabel hsound => hsound.set hlabel) n

/-- Along every course each jump on its way will be caught. -/
theorem jumpsLand (n : Nat) : (c.state n).skeleton.JumpsLand := by
  induction n with
  | zero =>
    rw [c.start]
    intro target hcontrol
    cases hcontrol
  | succ n ih => exact ih.move (c.aligned_sound n) (c.move n)

/-- A jump on its way unwinds the frames that let it through, one a turn, and resumes the sequence
that owns its scope. No command is dispatched meanwhile. -/
theorem jump_caught {n : Nat} {target : LabelTarget} {inner outer : List Frame}
    {owner : List Command} {index : Nat} (hcontrol : (c.state n).control = .leave (.jump target))
    (hframes : (c.state n).frames = inner ++ .sequence target.scope owner index :: outer)
    (hpasses : ∀ frame ∈ inner, frame.Passes target) :
    (c.state (n + inner.length + 1)).control = .fetch ∧
      (c.state (n + inner.length + 1)).frames = .sequence target.scope owner target.index :: outer ∧
      (c.state (n + inner.length + 1)).steps = (c.state n).steps := by
  have hnext := c.state_succ_of_leave hcontrol (by simp [hframes])
  induction inner generalizing n with
  | nil =>
    rw [List.length_nil, Nat.add_zero, hnext, Machine.leave, hframes]
    simp
  | cons frame inner ih =>
    have hpass := hpasses frame (.head _)
    have hleft : (c.state (n + 1)).control = .leave (.jump target) ∧
        (c.state (n + 1)).frames = inner ++ .sequence target.scope owner index :: outer ∧
        (c.state (n + 1)).steps = (c.state n).steps := by
      rw [hnext, Machine.leave, hframes]
      cases frame with
      | sequence scope commands index =>
        have hscope : ¬ target.scope = scope := fun h => hpass h.symm
        simp [hscope, Machine.exitSequence, Machine.withLabels]
      | loop condition body => simp [Machine.exitLoop]
      | counted count passes counter body => simp [Machine.exitLoop]
      | call floor => exact hpass.elim
    obtain ⟨hcontrol', hframes', hsteps⟩ := hleft
    obtain ⟨hfetch, hlanded, hsame⟩ := ih hcontrol' hframes' (fun f hf => hpasses f (.tail _ hf))
      (c.state_succ_of_leave hcontrol' (by simp [hframes']))
    rw [List.length_cons, show n + (inner.length + 1) + 1 = n + 1 + inner.length + 1 by omega]
    exact ⟨hfetch, hlanded, hsame.trans hsteps⟩

/-- Every jump that a `goto` or `gotoif` produces leads to a scope between the floor and the number
of scopes, to a label of the wanted name in the sequence that owns the scope, and this sequence
belongs to the same call and catches the jump. Neither the body of a function nor the script itself
ever hands out a jump. -/
theorem jump_contained (n : Nat) :
    (∀ target, (c.state n).control = .fetch → (c.state (n + 1)).control = .leave (.jump target) →
      ∃ line instruction label, (c.state n).skeleton.current? = some (.leaf line instruction) ∧
        instruction.jumpLabel? = some label ∧
        (c.state n).context.labels.floor ≤ target.scope ∧
        target.scope < (c.state n).context.labels.depth ∧
        ∃ inner owner index outer,
          (c.state n).frames = inner ++ .sequence target.scope owner index :: outer ∧
          (∀ frame ∈ inner, frame.Passes target) ∧
          (∃ place, owner[target.index]? = some (.leaf place (.label label))) ∧
          ∃ k, (c.state (n + 1 + k)).control = .fetch ∧
            (c.state (n + 1 + k)).frames = .sequence target.scope owner target.index :: outer ∧
            (c.state (n + 1 + k)).steps = (c.state (n + 1)).steps) ∧
      ∀ flow, (c.state n).control = .leave flow →
        ((c.state n).frames = [] ∨ ∃ floor outer, (c.state n).frames = .call floor :: outer) →
          flow = .next ∨ flow = .halt := by
  constructor
  · intro target hfetch hjump
    rcases (c.move n).of_jump hjump with
      hidle | ⟨_, hnext, line, instruction, label, hcurrent, hlabel, htarget⟩ | ⟨hleave, _⟩
    · have hsame : (c.state (n + 1)).control = (c.state n).control := congrArg Skeleton.control hidle
      rw [hjump, hfetch] at hsame
      cases hsame
    · obtain ⟨hlow, hhigh, inner, owner, index, outer, table, hframes, hpasses, hsound, hget⟩ :=
        LabelScopes.resolve_aligned (c.aligned_sound n) htarget
      have hframes' : (c.state (n + 1)).frames = inner ++ .sequence target.scope owner index :: outer :=
        (congrArg Skeleton.frames hnext).trans hframes
      obtain ⟨hcontrol, hlanded, hsteps⟩ := c.jump_caught hjump hframes' hpasses
      exact ⟨line, instruction, label, hcurrent, hlabel, hlow, hhigh, inner, owner, index, outer, hframes,
        hpasses, hsound label target.index hget, inner.length + 1, hcontrol, hlanded, hsteps⟩
    · have hsame : (c.state n).control = .leave (.jump target) := hleave
      rw [hfetch] at hsame
      cases hsame
  · intro flow hcontrol hend
    cases flow with
    | next => exact .inl rfl
    | halt => exact .inr rfl
    | jump target =>
      -- A jump on its way meets only frames that it passes before it comes to its own sequence.
      obtain ⟨inner, owner, index, outer, hsplit, hpasses⟩ := c.jumpsLand n target hcontrol
      have hframes : (c.state n).frames = inner ++ .sequence target.scope owner index :: outer := hsplit
      rcases hend with hempty | ⟨floor, rest, hcall⟩
      · simp [hempty] at hframes
      · rw [hcall] at hframes
        cases inner with
        | nil => cases hframes
        | cons first inner =>
          obtain ⟨hfirst, _⟩ := List.cons.inj hframes
          have hpass := hpasses first (.head _)
          rw [← hfirst] at hpass
          exact hpass.elim

end Course

end TouchScript
