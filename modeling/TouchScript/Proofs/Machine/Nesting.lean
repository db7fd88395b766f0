import TouchScript.Proofs.Machine.Course

namespace TouchScript

/-- The blocks that stand directly in a command. The body of a function definition is none of them:
it is walked only when the function is called. -/
def Command.blocks : Command → List (List Command)
  | .leaf _ _ | .function _ _ _ => []
  | .branch _ _ thenBlock elseBlock => [thenBlock, elseBlock]
  | .loop _ _ body | .counted _ _ _ body => [body]

/-- The sequences around a place in the text of `root`, innermost first. The way to the place is
given innermost first as well, each step by the place of a command and the number of a block in it. -/
def enclosing (root : List Command) : List (Nat × Nat) → Option (List (List Command))
  | [] => some [root]
  | (index, side) :: path => do
    let around ← enclosing root path
    let commands ← around.head?
    let command ← commands[index]?
    let block ← command.blocks[side]?
    return block :: around

namespace Frame

/-- The sequences that are walked in the current call and the places of their current commands,
innermost first. -/
def walked : List Frame → List (List Command × Nat)
  | [] | .call _ :: _ => []
  | .sequence _ commands index :: outer => (commands, index) :: walked outer
  | .loop _ _ :: outer | .counted _ _ _ _ :: outer => walked outer

/-- The body that a loop passes through. -/
def loopBody? : Frame → Option (List Command)
  | .loop _ body | .counted _ _ _ body => some body
  | .sequence _ _ _ | .call _ => none

/-- Every block stands in the current command of the sequence around it, and so does every loop;
what is outside everything is the script. -/
inductive Nested (script : List Command) : List Frame → Prop where
  | empty : Nested script []
  | root {scope index : Nat} : Nested script [.sequence scope script index]
  | block {scope index inside place : Nat} {commands block : List Command} {command : Command}
      {outer : List Frame} (hcommand : commands[index]? = some command)
      (hblock : block ∈ command.blocks) (houter : Nested script (.sequence scope commands index :: outer)) :
      Nested script (.sequence inside block place :: .sequence scope commands index :: outer)
  | loop {scope index : Nat} {commands body : List Command} {command : Command} {frame : Frame}
      {outer : List Frame} (hcommand : commands[index]? = some command)
      (hbody : frame.loopBody? = some body) (hblock : body ∈ command.blocks)
      (houter : Nested script (.sequence scope commands index :: outer)) :
      Nested script (frame :: .sequence scope commands index :: outer)
  | pass {scope index : Nat} {body : List Command} {frame : Frame} {outer : List Frame}
      (hbody : frame.loopBody? = some body) (houter : Nested script (frame :: outer)) :
      Nested script (.sequence scope body index :: frame :: outer)
  | call {floor : Nat} {outer : List Frame} (houter : Nested script outer) :
      Nested script (.call floor :: outer)
  | body {scope index floor : Nat} {commands : List Command} {outer : List Frame}
      (houter : Nested script (.call floor :: outer)) :
      Nested script (.sequence scope commands index :: .call floor :: outer)

namespace Nested

variable {script : List Command} {outer : List Frame}

/-- What is outside the innermost frame is nested itself. -/
theorem tail {frame : Frame} (h : Nested script (frame :: outer)) : Nested script outer := by
  cases h with
  | root => exact .empty
  | block _ _ houter => exact houter
  | loop _ _ _ houter => exact houter
  | pass _ houter => exact houter
  | call houter => exact houter
  | body houter => exact houter

/-- Another place in the innermost sequence does not matter, as no frame inside of it depends on the
current command. -/
theorem move_index {scope index : Nat} {commands : List Command}
    (h : Nested script (.sequence scope commands index :: outer)) (other : Nat) :
    Nested script (.sequence scope commands other :: outer) := by
  cases h with
  | root => exact .root
  | block hcommand hblock houter => exact .block hcommand hblock houter
  | loop _ hbody _ _ => cases hbody
  | pass hbody houter => exact .pass hbody houter
  | body houter => exact .body houter

/-- Nor does the number of passes a loop has begun. -/
theorem count {count passes : Nat} {counter : Option String} {body : List Command}
    (h : Nested script (.counted count passes counter body :: outer)) (other : Nat) :
    Nested script (.counted count other counter body :: outer) := by
  cases h with
  | loop hcommand hbody hblock houter => exact .loop hcommand (by exact hbody) hblock houter

/-- A move enters only blocks of the current command and bodies of loops and functions, so the
frames stay nested. -/
theorem move {settings : Settings} {s s' : Skeleton} (h : Nested script s.frames)
    (hmove : s.Move settings s') : Nested script s'.frames := by
  cases hmove with
  | finish _ hframes _ | exit _ hframes _ _ | unwind _ hframes _ _ | interrupt _ hframes _ _
  | leaveCall _ hframes =>
    rw [hframes] at h
    exact h.tail
  | call _ hcommand _ _ => exact .body (.call h)
  | branch _ hcommand hblock =>
    obtain ⟨scope, commands, index, outer, hframes, hcurrent⟩ := Skeleton.frames_of_current hcommand
    simp only [Skeleton.enter, hframes] at h ⊢
    exact .block hcurrent (by simpa [Command.blocks] using hblock) h
  | loop _ hcommand =>
    obtain ⟨scope, commands, index, outer, hframes, hcurrent⟩ := Skeleton.frames_of_current hcommand
    simp only [hframes] at h ⊢
    exact .loop hcurrent rfl (by simp [Command.blocks]) h
  | counted _ hcommand =>
    obtain ⟨scope, commands, index, outer, hframes, hcurrent⟩ := Skeleton.frames_of_current hcommand
    simp only [hframes] at h ⊢
    exact .loop hcurrent rfl (by simp [Command.blocks]) h
  | pass _ hframes =>
    simp only [Skeleton.enter, hframes] at h ⊢
    exact .pass rfl h
  | count _ hframes _ =>
    rw [hframes] at h
    exact .pass rfl (h.count _)
  | advance _ hframes =>
    rw [hframes] at h
    exact h.move_index _
  | land _ hframes =>
    rw [hframes] at h
    exact h.move_index _
  | _ => exact h

end Nested

/-- Only loops have a body that they pass through. -/
theorem isLoop_of_loopBody? {frame : Frame} {body : List Command} (hbody : frame.loopBody? = some body) :
    frame.IsLoop := by
  cases frame with
  | sequence _ _ _ => cases hbody
  | loop _ _ => trivial
  | counted _ _ _ _ => trivial
  | call _ => cases hbody

/-- A loop adds nothing to the walked sequences. -/
theorem IsLoop.walked_eq {frame : Frame} (hloop : frame.IsLoop) (outer : List Frame) :
    walked (frame :: outer) = walked outer := by
  cases frame with
  | sequence _ _ _ => exact hloop.elim
  | loop _ _ => rfl
  | counted _ _ _ _ => rfl
  | call _ => exact hloop.elim

theorem IsLoop.ne_call {frame : Frame} (hloop : frame.IsLoop) (floor : Nat) : frame ≠ .call floor := by
  rintro rfl
  exact hloop.elim

/-- The sequence outside all others of the current call: the script itself where nothing is called,
and otherwise the sequence directly inside the innermost call. -/
def Bottom (script root : List Command) (frames : List Frame) : Prop :=
  root = script ∧ (∀ floor, .call floor ∉ frames) ∨
    ∃ inner scope place floor outer,
      frames = inner ++ .sequence scope root place :: .call floor :: outer ∧ ∀ floor, .call floor ∉ inner

/-- More frames do not change the outermost sequence of a call, unless one is another call. -/
theorem Bottom.cons {script root : List Command} {frames : List Frame} {frame : Frame}
    (h : Bottom script root frames) (hframe : ∀ floor, frame ≠ .call floor) :
    Bottom script root (frame :: frames) := by
  rcases h with ⟨hroot, hcalls⟩ | ⟨inner, scope, place, floor, outer, hframes, hcalls⟩
  · refine .inl ⟨hroot, fun floor hmem => ?_⟩
    rcases List.mem_cons.mp hmem with heq | hmem
    · exact hframe floor heq.symm
    · exact hcalls floor hmem
  · refine .inr ⟨frame :: inner, scope, place, floor, outer, by rw [hframes]; rfl, fun floor hmem => ?_⟩
    rcases List.mem_cons.mp hmem with heq | hmem
    · exact hframe floor heq.symm
    · exact hcalls floor hmem

/-- One step more leads into a block of the command at the place. -/
theorem enclosing_cons {root block commands : List Command} {command : Command}
    {path : List (Nat × Nat)} {around : List (List Command)} {index side : Nat}
    (hpath : enclosing root path = some (commands :: around))
    (hcommand : commands[index]? = some command) (hblock : command.blocks[side]? = some block) :
    enclosing root ((index, side) :: path) = some (block :: commands :: around) := by
  simp [enclosing, hpath, hcommand, hblock]

/-- The walked sequences of nested frames enclose the current command in the text of the sequence
at the bottom, and the places of their current commands lead there. -/
theorem Nested.exists_path {script : List Command} {frames : List Frame} (h : Nested script frames)
    {commands : List Command} {index : Nat} {around : List (List Command × Nat)}
    (hwalked : walked frames = (commands, index) :: around) :
    ∃ root path, Bottom script root frames ∧
      enclosing root path = some (commands :: around.map Prod.fst) ∧
      path.map Prod.fst = around.map Prod.snd := by
  induction h generalizing commands index around with
  | empty => cases hwalked
  | root =>
    cases hwalked
    exact ⟨_, [], .inl ⟨rfl, by simp⟩, rfl, rfl⟩
  | block hcommand hblock houter ih =>
    cases hwalked
    obtain ⟨root, path, hbottom, hpath, hplaces⟩ := ih rfl
    obtain ⟨side, hside⟩ := List.mem_iff_getElem?.mp hblock
    exact ⟨root, (_, side) :: path, hbottom.cons nofun, enclosing_cons hpath hcommand hside,
      by simp [walked, hplaces]⟩
  | loop hcommand hbody hblock houter ih =>
    have hloop := isLoop_of_loopBody? hbody
    rw [hloop.walked_eq] at hwalked
    obtain ⟨root, path, hbottom, hpath⟩ := ih hwalked
    exact ⟨root, path, hbottom.cons hloop.ne_call, hpath⟩
  | pass hbody houter ih =>
    -- The pass has the body of its loop, and so it is a block of the command that the loop is.
    cases houter with
    | loop hcommand hsame hblock _ =>
      cases hbody.symm.trans hsame
      have hloop := isLoop_of_loopBody? hbody
      rw [walked, hloop.walked_eq] at hwalked
      cases hwalked
      obtain ⟨root, path, hbottom, hpath, hplaces⟩ := ih (hloop.walked_eq _)
      obtain ⟨side, hside⟩ := List.mem_iff_getElem?.mp hblock
      exact ⟨root, (_, side) :: path, hbottom.cons nofun, enclosing_cons hpath hcommand hside,
        by simp [walked, hplaces]⟩
    | _ => cases hbody
  | call _ _ => cases hwalked
  | body houter ih =>
    cases hwalked
    exact ⟨_, [], .inr ⟨[], _, _, _, _, rfl, by simp⟩, rfl, rfl⟩

end Frame

namespace Frame

/-- The body of a function, called with `outer` around it, is being walked. -/
def InBody (scope : Nat) (body : List Command) (floor : Nat) (outer frames : List Frame) : Prop :=
  ∃ inner index, frames = inner ++ .sequence scope body index :: .call floor :: outer

/-- The body of a function is walked in the innermost frame, directly inside of the call, or it is
walked outside of that frame. -/
theorem inBody_cons {scope floor : Nat} {body : List Command} {outer frames : List Frame} {frame : Frame} :
    InBody scope body floor outer (frame :: frames) ↔
      (∃ index, frame = .sequence scope body index) ∧ frames = .call floor :: outer ∨
        InBody scope body floor outer frames := by
  constructor
  · rintro ⟨inner, index, hframes⟩
    cases inner with
    | nil =>
      cases hframes
      exact .inl ⟨⟨index, rfl⟩, rfl⟩
    | cons first inner => exact .inr ⟨inner, index, (List.cons.inj hframes).2⟩
  · rintro (⟨⟨index, rfl⟩, rfl⟩ | ⟨inner, index, rfl⟩)
    · exact ⟨[], index, rfl⟩
    · exact ⟨frame :: inner, index, rfl⟩

end Frame

namespace Skeleton

/-- A body that is being walked was being walked before, or its function has just been called. -/
theorem Move.body_origin {settings : Settings} {s s' : Skeleton} {scope floor : Nat}
    {body : List Command} {outer : List Frame} (hmove : s.Move settings s')
    (hbody : Frame.InBody scope body floor outer s'.frames) :
    Frame.InBody scope body floor outer s.frames ∨
      s.control = .fetch ∧ s.frames = outer ∧
        ∃ line name, s.current? = some (.leaf line (.call name)) ∧ s.functions.get? name = some body := by
  -- Only a call puts a sequence directly on the frame of a call.
  cases hmove with
  | finish _ hbefore _ | exit _ hbefore _ _ | unwind _ hbefore _ _ | interrupt _ hbefore _ _
  | leaveCall _ hbefore =>
    rw [hbefore]
    exact .inl (Frame.inBody_cons.mpr (.inr hbody))
  | call hfetch hcommand hget _ =>
    rcases Frame.inBody_cons.mp hbody with ⟨⟨index, hhead⟩, hrest⟩ | hbody
    · cases hhead
      cases hrest
      exact .inr ⟨hfetch, rfl, _, _, hcommand, hget⟩
    · rcases Frame.inBody_cons.mp hbody with ⟨⟨index, hhead⟩, _⟩ | hbody
      · cases hhead
      · exact .inl hbody
  | branch _ hcommand hblock =>
    obtain ⟨_, _, _, _, hframes, _⟩ := frames_of_current hcommand
    rcases Frame.inBody_cons.mp hbody with ⟨_, hrest⟩ | hbody
    · cases hframes.symm.trans hrest
    · exact .inl hbody
  | loop _ _ | counted _ _ =>
    rcases Frame.inBody_cons.mp hbody with ⟨⟨_, hhead⟩, _⟩ | hbody
    · cases hhead
    · exact .inl hbody
  | pass _ hframes =>
    rcases Frame.inBody_cons.mp hbody with ⟨_, hrest⟩ | hbody
    · cases hframes.symm.trans hrest
    · exact .inl hbody
  | count _ hframes _ =>
    rcases Frame.inBody_cons.mp hbody with ⟨_, hrest⟩ | hbody
    · cases hrest
    · rcases Frame.inBody_cons.mp hbody with ⟨⟨_, hhead⟩, _⟩ | hbody
      · cases hhead
      · rw [hframes]
        exact .inl (Frame.inBody_cons.mpr (.inr hbody))
  | advance _ hframes | land _ hframes =>
    rw [hframes]
    rcases Frame.inBody_cons.mp hbody with ⟨⟨_, hhead⟩, hrest⟩ | hbody
    · cases hhead
      exact .inl (Frame.inBody_cons.mpr (.inl ⟨⟨_, rfl⟩, hrest⟩))
    · exact .inl (Frame.inBody_cons.mpr (.inr hbody))
  | _ => exact .inl hbody

end Skeleton

namespace Course

variable {settings : Settings} {commands : List Command} (c : Course settings commands)

/-- Along every course the frames are nested as the text is. -/
theorem nested (n : Nat) : Frame.Nested commands (c.state n).frames :=
  c.invariant (P := fun s => Frame.Nested commands s.frames) .root
    (fun _ _ hnested hmove => hnested.move hmove) n

/-- Turn `k` has called the function whose body is `body`, from the frames `outer`, and the call has
been in progress ever since. -/
def Called (n k : Nat) (body : List Command) (floor : Nat) (outer : List Frame) : Prop :=
  k < n ∧ (c.state k).control = .fetch ∧ (c.state k).frames = outer ∧
    (∃ line name, (c.state k).skeleton.current? = some (.leaf line (.call name)) ∧
      (c.state k).context.functions.get? name = some body) ∧
    ∀ j, k < j → j ≤ n → .call floor :: outer <:+ (c.state j).frames

/-- Every body that is being walked was called at some turn and has been in progress since. -/
theorem exists_called {n scope floor : Nat} {body : List Command} {outer : List Frame}
    (hbody : Frame.InBody scope body floor outer (c.state n).frames) :
    ∃ k, c.Called n k body floor outer := by
  have hsuffix (j : Nat) (h : Frame.InBody scope body floor outer (c.state j).frames) :
      .call floor :: outer <:+ (c.state j).frames := by
    obtain ⟨inner, index, hframes⟩ := h
    exact ⟨inner ++ [.sequence scope body index], by simp [hframes]⟩
  induction n with
  | zero =>
    rw [c.start] at hbody
    rcases Frame.inBody_cons.mp hbody with ⟨_, hrest⟩ | ⟨inner, _, hrest⟩
    · cases hrest
    · cases inner <;> cases hrest
  | succ n ih =>
    rcases (c.move n).body_origin hbody with hbefore | ⟨hfetch, hframes, hcall⟩
    · obtain ⟨k, hlt, hfetch, hframes, hcall, hsince⟩ := ih hbefore
      refine ⟨k, by omega, hfetch, hframes, hcall, fun j hlow hhigh => ?_⟩
      rcases Nat.lt_succ_iff_lt_or_eq.mp (Nat.lt_succ_of_le hhigh) with hlt | rfl
      · exact hsince j hlow (by omega)
      · exact hsuffix _ hbody
    · refine ⟨n, by omega, hfetch, hframes, hcall, fun j hlow hhigh => ?_⟩
      obtain rfl : j = n + 1 := by omega
      exact hsuffix _ hbody

end Course

end TouchScript
