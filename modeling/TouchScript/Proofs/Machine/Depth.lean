import Mathlib.Data.List.MinMax
import TouchScript.Proofs.Labels.Balance
import TouchScript.Proofs.Labels.Containment
import TouchScript.Proofs.Machine.Parts

namespace TouchScript

namespace Command

mutual

/-- How many sequences are nested in a command. The body of a function does not count: it is walked
only when the function is called. -/
def nesting : Command → Nat
  | .leaf _ _ | .function _ _ _ => 0
  | .branch _ _ thenBlock elseBlock => max (nestingOf thenBlock) (nestingOf elseBlock)
  | .loop _ _ body | .counted _ _ _ body => nestingOf body

/-- How many sequences are nested in a sequence, itself included. -/
def nestingOf : List Command → Nat
  | [] => 1
  | command :: rest => max (nesting command + 1) (nestingOf rest)

end

theorem nestingOf_pos (commands : List Command) : 0 < nestingOf commands := by
  cases commands with
  | nil => exact Nat.zero_lt_one
  | cons command rest =>
    rw [nestingOf]
    omega

/-- The sequences nested in a command are fewer than those nested in a sequence that has it, which
counts itself. -/
theorem nesting_lt_nestingOf {command : Command} {commands : List Command}
    (hcommand : command ∈ commands) : command.nesting < nestingOf commands := by
  induction commands with
  | nil => cases hcommand
  | cons first rest ih =>
    rw [nestingOf]
    rcases List.mem_cons.mp hcommand with rfl | hrest
    · omega
    · have hless := ih hrest
      omega

/-- A block is nested no deeper than its command. -/
theorem nestingOf_le_nesting {command : Command} {block : List Command}
    (hblock : block ∈ command.blocks) : nestingOf block ≤ command.nesting := by
  cases command with
  | leaf line instruction => cases hblock
  | function line name body => cases hblock
  | branch line condition thenBlock elseBlock =>
    simp only [blocks, List.mem_cons, List.not_mem_nil, or_false] at hblock
    rw [nesting]
    rcases hblock with rfl | rfl
    · exact Nat.le_max_left _ _
    · exact Nat.le_max_right _ _
  | loop line condition body =>
    rw [List.mem_singleton.mp hblock, nesting]
  | counted line count counter body =>
    rw [List.mem_singleton.mp hblock, nesting]

/-- A block is nested less deeply than the sequence its command stands in. -/
theorem nestingOf_lt_of_block {command : Command} {commands block : List Command}
    (hcommand : command ∈ commands) (hblock : block ∈ command.blocks) :
    nestingOf block < nestingOf commands :=
  Nat.lt_of_le_of_lt (nestingOf_le_nesting hblock) (nesting_lt_nestingOf hcommand)

/-- The body of a function definition. -/
def functionBody? : Command → Option (List Command)
  | .function _ _ body => some body
  | _ => none

/-- The largest number of sequences nested in each other, over the script and the bodies of all
functions that are defined anywhere in it. -/
def deepest (script : List Command) : Nat :=
  ((script :: (allOf script).filterMap functionBody?).map nestingOf).foldr max 0

/-- The script itself is nested no deeper than the deepest. -/
theorem nestingOf_le_deepest (script : List Command) : nestingOf script ≤ deepest script :=
  Nat.le_max_left _ _

/-- Nor is the body of any function that is defined in it. -/
theorem nestingOf_body_le_deepest {script body : List Command} {line : Nat} {name : String}
    (hbody : .function line name body ∈ allOf script) : nestingOf body ≤ deepest script := by
  have hmem : body ∈ (allOf script).filterMap functionBody? := List.mem_filterMap.mpr ⟨_, hbody, rfl⟩
  exact List.le_max_of_le' 0 (List.mem_map_of_mem (List.mem_cons_of_mem _ hmem)) (Nat.le_refl _)

end Command

namespace Frame

/-- The number of sequences among some frames, in whatever call they are walked. -/
def walks : List Frame → Nat
  | [] => 0
  | .sequence _ _ _ :: outer => walks outer + 1
  | .loop _ _ :: outer | .counted _ _ _ _ :: outer | .call _ :: outer => walks outer

/-- What is still nested in a sequence or a loop, together with the sequences around it in its call,
stays within `bound`. -/
def Shallow (bound : Nat) : List Frame → Prop
  | [] => True
  | frame :: outer =>
    (∀ commands, frame.commands? = some commands →
      (walked outer).length + Command.nestingOf commands ≤ bound) ∧ Shallow bound outer

/-- Every table of labels belongs to a sequence. -/
theorem Aligned.walks_eq {Fits : List Command → LabelTable → Prop} {frames : List Frame}
    {scopes : LabelScopes} (h : Aligned Fits frames scopes) : walks frames = scopes.depth := by
  induction h with
  | empty => rfl
  | sequence _ _ ih => exact congrArg (· + 1) ih
  | @loop frame outer scopes hloop _ ih =>
    cases frame with
    | sequence _ _ _ => exact hloop.elim
    | loop _ _ => exact ih
    | counted _ _ _ _ => exact ih
    | call _ => exact hloop.elim
  | call _ ih => exact ih

namespace Shallow

variable {bound : Nat} {frames outer : List Frame}

/-- A frame may be put on top if what it walks is not nested too deeply. -/
theorem cons {frame : Frame} {commands : List Command} (h : Shallow bound outer)
    (hframe : frame.commands? = some commands)
    (hroom : (walked outer).length + Command.nestingOf commands ≤ bound) :
    Shallow bound (frame :: outer) := by
  refine ⟨fun other hother => ?_, h⟩
  cases hframe.symm.trans hother
  exact hroom

/-- The sequences walked in the current call stay within the bound. -/
theorem walked_le (h : Shallow bound frames) : (walked frames).length ≤ bound := by
  induction frames with
  | nil => exact Nat.zero_le _
  | cons frame outer ih =>
    cases frame with
    | sequence scope commands index =>
      have hroom := h.1 commands rfl
      have hpos := Command.nestingOf_pos commands
      rw [walked, List.length_cons]
      omega
    | loop condition body => exact ih h.2
    | counted count passes counter body => exact ih h.2
    | call floor => exact Nat.zero_le _

/-- The walks of all calls together: those of the current one, and as many as the bound for each call
around it. -/
theorem walks_le (h : Shallow bound frames) :
    walks frames ≤ (walked frames).length + calls frames * bound := by
  induction frames with
  | nil => exact Nat.zero_le _
  | cons frame outer ih =>
    have houter := ih h.2
    cases frame with
    | sequence scope commands index =>
      rw [walks, walked, calls, List.length_cons]
      omega
    | loop condition body => exact houter
    | counted count passes counter body => exact houter
    | call floor =>
      have hcaller := walked_le h.2
      rw [walks, walked, calls, Nat.succ_mul, List.length_nil]
      omega

/-- A block of the current command may be walked, or passed through by a loop. -/
theorem room_of_block {scope index : Nat} {commands block : List Command} {command : Command}
    (h : Shallow bound (.sequence scope commands index :: outer))
    (hcommand : commands[index]? = some command) (hblock : block ∈ command.blocks) :
    (walked (.sequence scope commands index :: outer)).length + Command.nestingOf block ≤ bound := by
  have hroom := h.1 commands rfl
  have hless := Command.nestingOf_lt_of_block (List.mem_of_getElem? hcommand) hblock
  rw [walked, List.length_cons]
  omega

/-- Moves keep within the bound if the functions that can be called do. -/
theorem move {settings : Settings} {s s' : Skeleton} (h : Shallow bound s.frames)
    (hbodies : ∀ name body, s.functions.get? name = some body → Command.nestingOf body ≤ bound)
    (hmove : s.Move settings s') : Shallow bound s'.frames := by
  -- A walk one level deeper is over commands that nest one level less, but for a call.
  cases hmove with
  | finish _ hframes _ | exit _ hframes _ _ | unwind _ hframes _ _ | interrupt _ hframes _ _
  | leaveCall _ hframes =>
    rw [hframes] at h
    exact h.2
  | call _ _ hbody _ =>
    have hcall : Shallow bound (.call s.labels.floor :: s.frames) := ⟨nofun, h⟩
    refine hcall.cons rfl ?_
    rw [walked, List.length_nil, Nat.zero_add]
    exact hbodies _ _ hbody
  | branch _ hcommand hblock =>
    obtain ⟨scope, commands, index, outer, hframes, hcurrent⟩ := Skeleton.frames_of_current hcommand
    rw [Skeleton.enter, hframes]
    rw [hframes] at h
    exact h.cons rfl (h.room_of_block hcurrent (by simpa [Command.blocks] using hblock))
  | loop _ hcommand =>
    obtain ⟨scope, commands, index, outer, hframes, hcurrent⟩ := Skeleton.frames_of_current hcommand
    rw [hframes] at h ⊢
    exact h.cons rfl (h.room_of_block hcurrent (by simp [Command.blocks]))
  | counted _ hcommand =>
    obtain ⟨scope, commands, index, outer, hframes, hcurrent⟩ := Skeleton.frames_of_current hcommand
    rw [hframes] at h ⊢
    exact h.cons rfl (h.room_of_block hcurrent (by simp [Command.blocks]))
  | pass _ hframes =>
    rw [Skeleton.enter, hframes]
    rw [hframes] at h
    exact h.cons rfl (h.1 _ rfl)
  | count _ hframes _ =>
    rw [hframes] at h
    have hroom := h.1 _ rfl
    exact (h.2.cons rfl hroom).cons rfl hroom
  | advance _ hframes | land _ hframes =>
    rw [hframes] at h
    exact h.2.cons rfl (h.1 _ rfl)
  | _ => exact h

end Shallow

end Frame

namespace Skeleton

/-- Every function that can be called has a body that a definition in the script gives it. -/
def KnowsDefined (script : List Command) (s : Skeleton) : Prop :=
  ∀ name body, s.functions.get? name = some body →
    ∃ line, .function line name body ∈ Command.allOf script

/-- A move adds no function but the one that the current command defines. -/
theorem KnowsDefined.move {settings : Settings} {script : List Command} {s s' : Skeleton}
    (h : s.KnowsDefined script) (hwithin : s.Within script) (hmove : s.Move settings s') :
    s'.KnowsDefined script := by
  cases hmove with
  | @define line name body _ hcommand =>
    intro other found hget
    rw [Bindings.get?_set] at hget
    split at hget
    next hname =>
      cases hget
      subst hname
      exact ⟨line, hwithin.mem_current hcommand⟩
    next => exact h other found hget
  | _ => exact h

/-- The number of calls in progress stays within the limit. -/
theorem callDepth_move {settings : Settings} {s s' : Skeleton}
    (h : s.callDepth ≤ settings.maxCallDepth.val.toNat) (hmove : s.Move settings s') :
    s'.callDepth ≤ settings.maxCallDepth.val.toNat := by
  cases hmove with
  | call _ _ _ hdepth =>
    simp only [enter]
    omega
  | leaveCall _ _ => exact Nat.le_trans (Nat.sub_le _ _) h
  | _ => exact h

end Skeleton

namespace Course

variable {settings : Settings} {commands : List Command} (c : Course settings commands)

/-- Along every course all functions have bodies that the script gives them. -/
theorem knowsDefined (n : Nat) : (c.state n).skeleton.KnowsDefined commands := by
  induction n with
  | zero =>
    rw [c.start]
    nofun
  | succ n ih => exact ih.move (c.within_script n) (c.move n)

/-- Along every course the sequences of a call are nested no deeper than the text allows. -/
theorem shallow (n : Nat) : Frame.Shallow (Command.deepest commands) (c.state n).frames := by
  induction n with
  | zero =>
    rw [c.start]
    have hnothing : Frame.Shallow (Command.deepest commands) [] := trivial
    refine hnothing.cons rfl ?_
    rw [Frame.walked, List.length_nil, Nat.zero_add]
    exact Command.nestingOf_le_deepest commands
  | succ n ih =>
    refine Frame.Shallow.move ih (fun name body hbody => ?_) (c.move n)
    obtain ⟨line, hdefined⟩ := c.knowsDefined n name body hbody
    exact Command.nestingOf_body_le_deepest hdefined

/-- The machine counts the calls among its frames. -/
theorem callDepth_eq (n : Nat) : (c.state n).callDepth = Frame.calls (c.state n).frames := by
  obtain ⟨_, inner, hbalanced⟩ := (c.within n).balanced trivial (Machine.balanced_enter settings
    ⟨Context.empty, [], .fetch, 0, 0, false, #[], #[]⟩ commands)
  have hframes : (c.state n).frames = inner := hbalanced.frames.trans (List.append_nil _)
  have hdepth : (c.state n).callDepth = 0 + Frame.calls inner := hbalanced.callDepth
  rw [hframes, hdepth, Nat.zero_add]

/-- At no time are more calls in progress than the settings allow, and every function that is known
has a body from the script. The sequences that are walked, each of which has its table of labels, are
at most as many as the script nests, once for the script itself and once for every call. -/
theorem nesting_bounded (n : Nat) :
    (c.state n).callDepth ≤ settings.maxCallDepth.val.toNat ∧
      (∀ name body, (c.state n).context.functions.get? name = some body →
        ∃ line, .function line name body ∈ Command.allOf commands) ∧
      (c.state n).context.labels.depth ≤ ((c.state n).callDepth + 1) * Command.deepest commands ∧
      Frame.walks (c.state n).frames = (c.state n).context.labels.depth ∧
      Frame.walks (c.state n).frames ≤
        (settings.maxCallDepth.val.toNat + 1) * Command.deepest commands := by
  have hcalls : (c.state n).callDepth ≤ settings.maxCallDepth.val.toNat :=
    c.invariant (P := fun s => s.callDepth ≤ settings.maxCallDepth.val.toNat) (Nat.zero_le _)
      (fun _ _ h hmove => Skeleton.callDepth_move h hmove) n
  have htables : Frame.walks (c.state n).frames = (c.state n).context.labels.depth :=
    (c.aligned_sound n).walks_eq
  have hwalks : Frame.walks (c.state n).frames ≤
      ((c.state n).callDepth + 1) * Command.deepest commands :=
    calc Frame.walks (c.state n).frames
      _ ≤ (Frame.walked (c.state n).frames).length +
            Frame.calls (c.state n).frames * Command.deepest commands := (c.shallow n).walks_le
      _ ≤ Command.deepest commands + Frame.calls (c.state n).frames * Command.deepest commands :=
          Nat.add_le_add_right (c.shallow n).walked_le _
      _ = ((c.state n).callDepth + 1) * Command.deepest commands := by
          rw [c.callDepth_eq n, Nat.succ_mul, Nat.add_comm]
  refine ⟨hcalls, c.knowsDefined n, htables ▸ hwalks, htables, hwalks.trans ?_⟩
  exact Nat.mul_le_mul_right _ (Nat.succ_le_succ hcalls)

end Course

end TouchScript
