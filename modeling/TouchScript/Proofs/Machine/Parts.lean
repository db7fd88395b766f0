import Mathlib.Data.List.Flatten
import TouchScript.Proofs.Machine.Nesting
import TouchScript.Proofs.Script.Render

namespace TouchScript

namespace Command

/-- The sequences that stand directly in a command, whether they are walked in place or kept as the
body of a function. -/
def bodies : Command → List (List Command)
  | .leaf _ _ => []
  | .branch _ _ thenBlock elseBlock => [thenBlock, elseBlock]
  | .loop _ _ body | .counted _ _ _ body | .function _ _ body => [body]

/-- A command comes before all commands in its bodies. -/
theorem all_eq (command : Command) : command.all = command :: command.bodies.flatMap allOf := by
  cases command <;> simp [all, bodies]

/-- The commands of a sequence are those of its members, one after the other. -/
theorem allOf_eq (commands : List Command) : allOf commands = commands.flatMap all := by
  induction commands with
  | nil => rfl
  | cons command rest ih => rw [allOf, ih, List.flatMap_cons]

/-- A member of a sequence is one of its commands. -/
theorem mem_allOf {command : Command} {commands : List Command} (hmem : command ∈ commands) :
    command ∈ allOf commands := by
  rw [allOf_eq]
  refine List.mem_flatMap.mpr ⟨command, hmem, ?_⟩
  rw [all_eq]
  exact List.mem_cons_self

/-- The blocks of a command are among its bodies. -/
theorem mem_bodies_of_block {command : Command} {block : List Command}
    (hblock : block ∈ command.blocks) : block ∈ command.bodies := by
  cases command with
  | function line name body => cases hblock
  | _ => exact hblock

/-- What stands in a command of a sequence is smaller than the sequence. -/
theorem cons_allOf_sublist {command : Command} {commands block : List Command}
    (hcommand : command ∈ commands) (hblock : block ∈ command.bodies) :
    (command :: allOf block).Sublist (allOf commands) := by
  have hcommands : command.all.Sublist (allOf commands) := by
    rw [allOf_eq]
    simpa using (List.singleton_sublist.mpr hcommand).flatMap all
  have hinside : (command :: allOf block).Sublist command.all := by
    rw [all_eq]
    exact .cons_cons _ (by simpa using (List.singleton_sublist.mpr hblock).flatMap allOf)
  exact hinside.trans hcommands

end Command

/-- The commands of a sequence, in it and in its blocks, are commands of the script. Whatever a
machine walks is such a part, also when functions are defined anew on the way. -/
def Part (script commands : List Command) : Prop :=
  (Command.allOf commands).Sublist (Command.allOf script)

namespace Part

variable {script commands : List Command}

/-- What stands in a command of a part is a part. -/
theorem body (h : Part script commands) {command : Command} (hcommand : command ∈ commands)
    {block : List Command} (hblock : block ∈ command.bodies) : Part script block :=
  ((List.sublist_cons_self _ _).trans (Command.cons_allOf_sublist hcommand hblock)).trans h

/-- A member of a part is a command of the script. -/
theorem mem (h : Part script commands) {command : Command} (hcommand : command ∈ commands) :
    command ∈ Command.allOf script :=
  h.subset (Command.mem_allOf hcommand)

end Part

/-- All commands of a sequence and of its blocks are such that `p` holds. -/
def Everywhere (p : Command → Bool) (commands : List Command) : Prop :=
  ∀ command ∈ Command.allOf commands, p command = true

instance (p : Command → Bool) (commands : List Command) : Decidable (Everywhere p commands) :=
  decidable_of_iff ((Command.allOf commands).all p = true) List.all_eq_true

/-- What holds everywhere in a script holds everywhere in its parts. -/
theorem Everywhere.part {p : Command → Bool} {script commands : List Command} (h : Everywhere p script)
    (hpart : Part script commands) : Everywhere p commands :=
  fun command hmem => h command (hpart.subset hmem)

/-- The sequence that a frame walks, or that its loop passes through. -/
def Frame.commands? : Frame → Option (List Command)
  | .sequence _ commands _ => some commands
  | .loop _ body | .counted _ _ _ body => some body
  | .call _ => none

namespace Skeleton

/-- The frames and the functions of a machine are made of parts of the script. -/
structure Within (script : List Command) (s : Skeleton) : Prop where
  frames : ∀ frame ∈ s.frames, ∀ commands, frame.commands? = some commands → Part script commands
  functions : ∀ name body, s.functions.get? name = some body → Part script body

namespace Within

variable {script : List Command} {s : Skeleton}

/-- The innermost frame is made of a part of the script, and so are those outside of it. -/
theorem of_cons (h : s.Within script) {frame : Frame} {outer : List Frame}
    (hframes : s.frames = frame :: outer) :
    (∀ commands, frame.commands? = some commands → Part script commands) ∧
      ∀ other ∈ outer, ∀ commands, other.commands? = some commands → Part script commands := by
  have hall := h.frames
  rw [hframes, List.forall_mem_cons] at hall
  exact hall

/-- The current command stands in the script. -/
theorem mem_current (h : s.Within script) {command : Command} (hcurrent : s.current? = some command) :
    command ∈ Command.allOf script := by
  obtain ⟨scope, commands, index, outer, hframes, hcommand⟩ := frames_of_current hcurrent
  exact ((h.of_cons hframes).1 commands rfl).mem (List.mem_of_getElem? hcommand)

/-- The bodies of the current command are parts of the script. -/
theorem part_body (h : s.Within script) {command : Command} (hcurrent : s.current? = some command)
    {block : List Command} (hblock : block ∈ command.bodies) : Part script block := by
  obtain ⟨scope, commands, index, outer, hframes, hcommand⟩ := frames_of_current hcurrent
  exact ((h.of_cons hframes).1 commands rfl).body (List.mem_of_getElem? hcommand) hblock

/-- A frame for a part may be put on top. -/
theorem cons {frames : List Frame} {frame : Frame} {commands : List Command}
    (hframes : ∀ frame ∈ frames, ∀ commands, frame.commands? = some commands → Part script commands)
    (hpart : Part script commands) (hframe : frame.commands? = some commands) :
    ∀ other ∈ frame :: frames, ∀ commands, other.commands? = some commands → Part script commands := by
  refine List.forall_mem_cons.mpr ⟨fun other hother => ?_, hframes⟩
  cases hframe.symm.trans hother
  exact hpart

/-- A move brings in nothing but bodies of the current command and of functions that are known
already. -/
theorem move {settings : Settings} {s' : Skeleton} (h : s.Within script) (hmove : s.Move settings s') :
    s'.Within script := by
  have htail {frame : Frame} {outer : List Frame} (hframes : s.frames = frame :: outer) :=
    (h.of_cons hframes).2
  have hhead {frame : Frame} {outer : List Frame} {commands : List Command}
      (hframes : s.frames = frame :: outer) (hcommands : frame.commands? = some commands) :=
    (h.of_cons hframes).1 commands hcommands
  cases hmove with
  | finish _ hframes _ | exit _ hframes _ _ | unwind _ hframes _ _ | interrupt _ hframes _ _
  | leaveCall _ hframes =>
    exact ⟨htail hframes, h.functions⟩
  | call _ _ hbody _ =>
    have hcall : ∀ frame ∈ .call s.labels.floor :: s.frames, ∀ commands,
        frame.commands? = some commands → Part script commands :=
      List.forall_mem_cons.mpr ⟨nofun, h.frames⟩
    exact ⟨cons hcall (h.functions _ _ hbody) rfl, h.functions⟩
  | @define line name body _ hcommand =>
    refine ⟨h.frames, fun other found hget => ?_⟩
    rw [Bindings.get?_set] at hget
    split at hget
    next =>
      cases hget
      exact h.part_body hcommand (by simp [Command.bodies])
    next => exact h.functions other found hget
  | branch _ hcommand hblock =>
    exact ⟨cons h.frames (h.part_body hcommand (by simpa [Command.bodies] using hblock)) rfl, h.functions⟩
  | loop _ hcommand | counted _ hcommand =>
    exact ⟨cons h.frames (h.part_body hcommand (by simp [Command.bodies])) rfl, h.functions⟩
  | pass _ hframes => exact ⟨cons h.frames (hhead hframes rfl) rfl, h.functions⟩
  | count _ hframes _ =>
    have hpart := hhead hframes rfl
    exact ⟨cons (cons (htail hframes) hpart rfl) hpart rfl, h.functions⟩
  | advance _ hframes | land _ hframes =>
    exact ⟨cons (htail hframes) (hhead hframes rfl) rfl, h.functions⟩
  | _ => exact ⟨h.frames, h.functions⟩

end Within

end Skeleton

/-- All that is walked along a course is a part of the script. -/
theorem Course.within_script {settings : Settings} {commands : List Command}
    (c : Course settings commands) (n : Nat) : (c.state n).skeleton.Within commands := by
  have hscript : ∀ frame ∈ [Frame.sequence 0 commands 0], ∀ other, frame.commands? = some other →
      Part commands other :=
    Skeleton.Within.cons (by simp) (List.Sublist.refl _) rfl
  exact c.invariant (P := fun s => s.Within commands) ⟨hscript, nofun⟩
    (fun _ _ hwithin hmove => hwithin.move hmove) n

/-- Every command that is dispatched stands in the script. -/
theorem Course.Dispatches.mem_allOf {settings : Settings} {commands : List Command}
    {c : Course settings commands} {n : Nat} {command : Command} (h : c.Dispatches n command) :
    command ∈ Command.allOf commands := by
  obtain ⟨_, scope, sequence, index, outer, hframes, hcommand, _⟩ := h
  have hcurrent : (c.state n).skeleton.current? = some command := by
    simp [Skeleton.current?, Machine.skeleton, hframes, hcommand]
  exact (c.within_script n).mem_current hcurrent

end TouchScript
