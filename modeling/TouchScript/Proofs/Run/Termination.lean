import TouchScript.Proofs.Machine.Parts
import TouchScript.Proofs.Run.Interference
import TouchScript.Run.Rehearsal

namespace TouchScript

/-- Neither jumps nor goes on for as long as a condition holds. -/
def Command.isBounded : Command → Bool
  | .leaf _ instruction => instruction.jumpLabel?.isNone
  | .loop _ _ _ => false
  | .branch _ _ _ _ | .counted _ _ _ _ | .function _ _ _ => true

/-- No command jumps or is a `while`, the bodies of functions included. -/
abbrev Bounded : List Command → Prop :=
  Everywhere Command.isBounded

namespace Control

/-- How many more turns the current command may have to wait. -/
def waits : Control → Nat
  | .perform _ _ | .search _ _ | .tell _ => 2
  | .pause _ => 1
  | _ => 0

/-- A command that makes no call waits for time to pass at most, and only once. -/
theorem waits_lt_two {control : Control} (hcall : control.call? = none) : control.waits < 2 := by
  cases control <;> simp_all [call?, waits]

end Control

namespace Skeleton

variable (settings : Settings)

/-- A move of a machine whose calls come back: a command does not wait for ever. -/
structure Goes (s s' : Skeleton) : Prop where
  move : s.Move settings s'
  waits : s.control.IsWaiting → s'.control.waits < s.control.waits

/-- Whatever the surroundings do, the machine comes to a state with `Q`. -/
inductive Inevitably (Q : Skeleton → Prop) : Skeleton → Prop where
  | here {s : Skeleton} (h : Q s) : Inevitably Q s
  | later {s : Skeleton} (h : ∀ s', s.Goes settings s' → Inevitably Q s') : Inevitably Q s

variable {settings}

/-- What is inevitable after something inevitable is inevitable. -/
theorem Inevitably.bind {Q R : Skeleton → Prop} {s : Skeleton} (h : Inevitably settings Q s)
    (hnext : ∀ s', Q s' → Inevitably settings R s') : Inevitably settings R s := by
  induction h with
  | here h => exact hnext _ h
  | later _ ih => exact .later ih

/-- A command that waits is done some time. -/
theorem Inevitably.of_waiting {Q : Skeleton → Prop} {s : Skeleton} (hwaiting : s.control.IsWaiting)
    (hdone : Inevitably settings Q { s with control := .leave .next }) : Inevitably settings Q s := by
  generalize hwaits : s.control.waits = waits
  induction waits using Nat.strongRecOn generalizing s with
  | ind waits ih =>
    refine .later fun s' hgoes => ?_
    have hless := hgoes.waits hwaiting
    cases hgoes.move with
    | idle _ => exact absurd hless (Nat.lt_irrefl _)
    | @resume control _ hcontrol =>
      rcases hcontrol with hagain | rfl
      · exact ih _ (hwaits ▸ hless) hagain hdone rfl
      · exact hdone
    | _ => simp_all [Control.IsWaiting]

/-- The functions that can be called are bounded. -/
def KnowsBounded (s : Skeleton) : Prop :=
  ∀ name body, s.functions.get? name = some body → Bounded body

/-- The machine hands a flow that is no jump to the frames `outer`, inside of `depth` calls. -/
structure Hands (outer : List Frame) (depth : Nat) (s : Skeleton) : Prop where
  frames : s.frames = outer
  callDepth : s.callDepth = depth
  knows : s.KnowsBounded
  control : s.control.IsPlainLeave

variable (settings)

/-- Walks of a sequence inside of `depth` calls come to an end. They do because the walks of its
blocks do, the passes of a counted loop are counted, and fewer calls are allowed inside of a call,
wherever in the script its body comes from. -/
def WalkEnds (depth : Nat) (commands : List Command) : Prop :=
  ∀ s {scope outer}, s.control = .fetch → s.frames = .sequence scope commands 0 :: outer →
    s.callDepth = depth → s.KnowsBounded → Inevitably settings (Hands outer depth) s

variable {settings} {depth : Nat} {s : Skeleton} {outer : List Frame}

/-- The flow of a command leaves a sequence or goes on to the next command. -/
theorem Inevitably.of_sequence {scope index : Nat} {commands : List Command}
    (hhands : Hands (.sequence scope commands index :: outer) depth s)
    (hnext : ∀ s', s'.control = .fetch → s'.frames = .sequence scope commands (index + 1) :: outer →
      s'.callDepth = depth → s'.KnowsBounded → Inevitably settings (Hands outer depth) s') :
    Inevitably settings (Hands outer depth) s := by
  obtain ⟨hframes, hdepth, hknows, hcontrol⟩ := hhands
  refine .later fun s' hgoes => ?_
  rcases hcontrol with hcontrol | hcontrol
  · cases hgoes.move with
    | advance _ hsame =>
      cases hframes.symm.trans hsame
      exact hnext _ rfl rfl hdepth hknows
    | unwind hleave _ hnot _ =>
      cases hcontrol.symm.trans hleave
      exact absurd rfl hnot
    | _ => simp_all [Control.IsWaiting]
  · cases hgoes.move with
    | unwind hleave hsame _ _ =>
      cases hframes.symm.trans hsame
      cases hcontrol.symm.trans hleave
      exact .here ⟨rfl, hdepth, hknows, .inr rfl⟩
    | _ => simp_all [Control.IsWaiting, Frame.IsLoop]

/-- A counted loop ends when the walks of its body do. -/
theorem Inevitably.of_counted {count passes : Nat} {counter : Option String} {body : List Command}
    (hbody : WalkEnds settings depth body) (hcontrol : s.control = .again)
    (hframes : s.frames = .counted count passes counter body :: outer) (hdepth : s.callDepth = depth)
    (hknows : s.KnowsBounded) : Inevitably settings (Hands outer depth) s := by
  -- Every pass lowers the number of passes that remain.
  generalize hleft : count - passes = left
  induction left using Nat.strongRecOn generalizing s passes with
  | ind left ih =>
    refine .later fun s' hgoes => ?_
    cases hgoes.move with
    | exit _ hsame _ hflow =>
      cases hframes.symm.trans hsame
      refine .here ⟨rfl, hdepth, hknows, ?_⟩
      exact hflow.imp (congrArg _) (congrArg _)
    | count _ hsame hpasses =>
      cases hframes.symm.trans hsame
      refine (hbody _ rfl rfl (by exact hdepth) (by exact hknows)).bind ?_
      rintro s'' ⟨hframes', hdepth', hknows', hcontrol'⟩
      refine .later fun s''' hgoes' => ?_
      rcases hcontrol' with hcontrol' | hcontrol'
      · cases hgoes'.move with
        | recount _ _ => exact ih _ (by omega) rfl hframes' hdepth' hknows' rfl
        | _ => simp_all [Control.IsWaiting]
      · cases hgoes'.move with
        | interrupt hleave hsame' _ _ =>
          cases hframes'.symm.trans hsame'
          cases hcontrol'.symm.trans hleave
          exact .here ⟨rfl, hdepth', hknows', .inr rfl⟩
        | _ => simp_all [Control.IsWaiting]
    | _ => simp_all [Control.IsWaiting]

/-- A call ends when the walks of the body do. -/
theorem Inevitably.of_call {floor : Nat} (hhands : Hands (.call floor :: outer) (depth + 1) s) :
    Inevitably settings (Hands outer depth) s := by
  obtain ⟨hframes, hdepth, hknows, hcontrol⟩ := hhands
  refine .later fun s' hgoes => ?_
  cases hgoes.move with
  | leaveCall hleave hsame =>
    cases hframes.symm.trans hsame
    refine .here ⟨rfl, by simp [hdepth], hknows, ?_⟩
    rcases hcontrol with hcontrol | hcontrol
    · cases hcontrol.symm.trans hleave
      exact .inl rfl
    · cases hcontrol.symm.trans hleave
      exact .inr rfl
  | _ => rcases hcontrol with hcontrol | hcontrol <;> simp_all [Control.IsWaiting, Frame.IsLoop]

/-- The walk of a bounded sequence ends when the walks of the blocks in it do, and those of the bodies
that may be called. -/
theorem walkEnds_of_blocks {commands : List Command} (hbounded : Bounded commands)
    (hblocks : ∀ command ∈ commands, ∀ block ∈ command.blocks, WalkEnds settings depth block)
    (hcalls : depth < settings.maxCallDepth.val → ∀ body, Bounded body → WalkEnds settings (depth + 1) body) :
    WalkEnds settings depth commands := by
  intro s scope outer hcontrol hframes hdepth hknows
  generalize 0 = index at hframes
  generalize hleft : commands.length - index = left
  induction left using Nat.strongRecOn generalizing s index with
  | ind left ih =>
    have hcurrent : s.current? = commands[index]? := by simp [current?, hframes]
    -- Once the current command is done, the walk goes on behind it.
    have hdone (s' : Skeleton) (hmore : index < commands.length)
        (h : Hands (.sequence scope commands index :: outer) depth s') :
        Inevitably settings (Hands outer depth) s' :=
      .of_sequence h fun s'' hcontrol' hframes' hdepth' hknows' =>
        ih (commands.length - (index + 1)) (by omega) s'' hcontrol' hdepth' hknows' (index + 1) hframes' rfl
    have hfound {command : Command} (hcommand : s.current? = some command) :
        index < commands.length ∧ command ∈ commands ∧ command.isBounded = true := by
      rw [hcurrent] at hcommand
      have hmem := List.mem_of_getElem? hcommand
      exact ⟨(List.getElem?_eq_some_iff.mp hcommand).1, hmem, hbounded _ (Command.mem_allOf hmem)⟩
    refine .later fun s' hgoes => ?_
    cases hgoes.move with
    | finish _ hsame hflow =>
      cases hframes.symm.trans hsame
      refine .here ⟨rfl, hdepth, hknows, ?_⟩
      exact hflow.imp (fun h => congrArg _ h.1) (congrArg _)
    | instruct _ hcommand hafter =>
      obtain ⟨hmore, _, _⟩ := hfound hcommand
      rcases hafter with hwaiting | hleave
      · exact .of_waiting hwaiting (hdone _ hmore ⟨hframes, hdepth, hknows, .inl rfl⟩)
      · exact hdone _ hmore ⟨hframes, hdepth, hknows, hleave⟩
    | register _ _ hsame hcommand =>
      cases hframes.symm.trans hsame
      exact hdone _ (List.getElem?_eq_some_iff.mp hcommand).1 ⟨hframes, hdepth, hknows, .inl rfl⟩
    | jump _ hcommand hlabel _ =>
      obtain ⟨_, _, hjump⟩ := hfound hcommand
      simp [Command.isBounded, hlabel] at hjump
    | call _ hcommand hget hless =>
      obtain ⟨hmore, _, _⟩ := hfound hcommand
      rw [hdepth] at hless
      refine (hcalls hless _ (hknows _ _ hget) _ rfl rfl (congrArg (· + 1) hdepth) (by exact hknows)).bind ?_
      intro s' hhands
      exact (Inevitably.of_call hhands).bind fun s'' hhands' => hdone s'' hmore (hframes ▸ hhands')
    | @define line name body _ hcommand =>
      obtain ⟨hmore, hmem, _⟩ := hfound hcommand
      refine hdone _ hmore ⟨hframes, hdepth, fun other found hget => ?_, .inl rfl⟩
      rw [Bindings.get?_set] at hget
      split at hget
      next =>
        cases hget
        exact hbounded.part (Part.body (.refl _) hmem (by simp [Command.bodies]))
      next => exact hknows other found hget
    | branch _ hcommand hblock =>
      obtain ⟨hmore, hmem, _⟩ := hfound hcommand
      refine (hblocks _ hmem _ (by simpa [Command.blocks] using hblock) _ rfl rfl (by exact hdepth)
        (by exact hknows)).bind ?_
      exact fun s' hhands => hdone s' hmore (hframes ▸ hhands)
    | loop _ hcommand =>
      obtain ⟨_, _, hloop⟩ := hfound hcommand
      cases hloop
    | @counted line count counter body _ hcommand =>
      obtain ⟨hmore, hmem, _⟩ := hfound hcommand
      have hbody := hblocks _ hmem body (by simp [Command.blocks])
      refine (Inevitably.of_counted hbody rfl rfl (by exact hdepth) (by exact hknows)).bind ?_
      exact fun s' hhands => hdone s' hmore (hframes ▸ hhands)
    | _ => simp_all [Control.IsWaiting]

/-- The walk of a bounded sequence ends if those of the bodies that may be called do. -/
theorem walkEnds_of_calls
    (hcalls : depth < settings.maxCallDepth.val → ∀ body, Bounded body → WalkEnds settings (depth + 1) body)
    {commands : List Command} (hbounded : Bounded commands) : WalkEnds settings depth commands := by
  generalize hsize : (Command.allOf commands).length = size
  induction size using Nat.strongRecOn generalizing commands with
  | ind size ih =>
    refine walkEnds_of_blocks hbounded (fun command hmem block hblock => ?_) hcalls
    have hbodies := Command.mem_bodies_of_block hblock
    have hless := (Command.cons_allOf_sublist hmem hbodies).length_le
    rw [List.length_cons, hsize] at hless
    exact ih _ hless (hbounded.part (Part.body (.refl _) hmem hbodies)) rfl

/-- The walk of a bounded sequence ends, however many calls it is inside of. -/
theorem walkEnds_of_bounded (settings : Settings) (depth : Nat) {commands : List Command}
    (hbounded : Bounded commands) : WalkEnds settings depth commands := by
  generalize hallowed : (settings.maxCallDepth.val - depth).toNat = allowed
  induction allowed using Nat.strongRecOn generalizing depth commands with
  | ind allowed ih =>
    refine walkEnds_of_calls (fun hless body hbody => ?_) hbounded
    exact ih (settings.maxCallDepth.val - (depth + 1 : Nat)).toNat (by omega) (depth + 1) hbody rfl

end Skeleton

namespace Course

variable {settings : Settings} {commands : List Command} (c : Course settings commands)

/-- Every call comes back before the next turn. -/
def CallsReturn : Prop :=
  ∀ n, (c.state n).control.call? ≠ none → (c.state (n + 1)).control.call? = none

variable {c}

/-- If every call comes back, no move stays where it is. -/
theorem CallsReturn.goes (hreturn : c.CallsReturn) (n : Nat) :
    (c.state n).skeleton.Goes settings (c.state (n + 1)).skeleton := by
  refine ⟨c.move n, fun hwaiting => ?_⟩
  change (c.state (n + 1)).control.waits < (c.state n).control.waits
  have hback := hreturn n
  cases hcontrol : (c.state n).control with
  | pause duration =>
    obtain ⟨σ, d, device, cancelled, hturn⟩ := c.turn n
    have hnext : (c.state (n + 1)).control = .leave .next := by
      rw [hturn, Machine.turn, hcontrol]
      rfl
    simp [hnext, Control.waits]
  | perform line g =>
    rw [hcontrol] at hback
    exact Control.waits_lt_two (hback (Option.some_ne_none _))
  | search line lookup =>
    rw [hcontrol] at hback
    exact Control.waits_lt_two (hback (Option.some_ne_none _))
  | tell call =>
    rw [hcontrol] at hback
    exact Control.waits_lt_two (hback (Option.some_ne_none _))
  | _ => simp [Machine.skeleton, hcontrol, Control.IsWaiting] at hwaiting

/-- A course whose calls come back gets to what is inevitable. -/
theorem CallsReturn.reaches (hreturn : c.CallsReturn) {Q : Skeleton → Prop} {n : Nat}
    (h : Skeleton.Inevitably settings Q (c.state n).skeleton) : ∃ k, Q (c.state k).skeleton := by
  generalize hstate : (c.state n).skeleton = s at h
  induction h generalizing n with
  | here h => exact ⟨n, hstate ▸ h⟩
  | later _ ih => exact ih _ (hstate ▸ hreturn.goes n) rfl

/-- The course of a bounded script ends if its calls come back. -/
theorem CallsReturn.ends (hreturn : c.CallsReturn) (hbounded : Bounded commands) :
    ∃ n, (c.state n).isFinished = true := by
  have hstart : Skeleton.Inevitably settings (Skeleton.Hands [] 0) (c.state 0).skeleton := by
    rw [c.start]
    exact Skeleton.walkEnds_of_bounded settings 0 hbounded _ rfl rfl rfl nofun
  obtain ⟨n, hframes, _, _, hcontrol⟩ := hreturn.reaches hstart
  exact ⟨n, (Machine.isFinished_eq_true_iff _).mpr ⟨hframes, hcontrol.elim (⟨_, ·⟩) (⟨_, ·⟩)⟩⟩

end Course

/-- Every call comes back, with a result or with an error. -/
structure Device.Returns {σ : Type} (d : Device σ) : Prop where
  perform : ∀ device g o, (d.perform device g).1.reply ≠ .crash o
  search : ∀ device path o, (d.search device path).1.reply ≠ .crash o

/-- A device on which every call comes back never breaks down. -/
theorem Device.Returns.breakdown?_eq_none {σ : Type} {d : Device σ} (hreturns : d.Returns) (device : σ)
    (call : DeviceCall) : d.breakdown? device call = none := by
  cases call with
  | gesture g =>
    have hback := hreturns.perform device g
    cases hreply : (d.perform device g).1.reply <;> simp_all [breakdown?, Reply.breakdown?]
  | search path =>
    have hback := hreturns.search device path
    cases hreply : (d.search device path).1.reply <;> simp_all [breakdown?, Reply.breakdown?]
  | tell call => rfl

namespace Run

variable {σ : Type} (settings : Settings) (d : Device σ)

/-- With such a device no step breaks the run down. -/
theorem status_step_ne_crashed (hreturns : d.Returns) {run : Run σ} {o : Overflow}
    (hbefore : run.status ≠ .crashed o) : (run.step settings d).status ≠ .crashed o := by
  by_cases hrunning : run.status = .running
  · rw [step_of_running settings d hrunning]
    change (run.machine.turn settings d run.device run.cancelled).signal.status ≠ .crashed o
    rw [Ne, Machine.status_turn_eq_crashed_iff]
    rintro ⟨call, _, hbreak⟩
    cases (hreturns.breakdown?_eq_none run.device call).symm.trans hbreak
  · rw [step_of_over settings d hrunning]
    exact hbefore

section

variable {settings d} {commands : List Command} {device : σ} {cancelled : Bool}
  (hforever : ∀ k, ((start settings commands device cancelled).steps settings d k).status = .running)
include hforever

/-- While a run goes on, its steps are the turns of its machine. -/
theorem turn_of_running (k : Nat) :
    let run := (start settings commands device cancelled).steps settings d k
    let turn := run.machine.turn settings d run.device run.cancelled
    ((start settings commands device cancelled).steps settings d (k + 1)).machine = turn.machine ∧
      turn.signal.status = .running := by
  have hnext := steps_succ settings d k (start settings commands device cancelled)
  rw [step_of_running settings d (hforever k)] at hnext
  exact ⟨congrArg Run.machine hnext, (congrArg Run.status hnext).symm.trans (hforever (k + 1))⟩

/-- In a run that goes on for ever every call comes back: another one would have ended the run. -/
theorem callsReturn_of_running : (course settings d commands device cancelled).CallsReturn := by
  intro k hcall
  change ((start settings commands device cancelled).steps settings d (k + 1)).machine.control.call? = none
  obtain ⟨hmachine, hrunning⟩ := turn_of_running hforever k
  obtain ⟨call, hcall⟩ := Option.ne_none_iff_exists'.mp hcall
  rcases Machine.turn_of_call settings _ hcall d _ _ with ⟨_, hback⟩ | ⟨o, hcrash⟩
  · rw [hmachine]
    rcases hback.control with hcontrol | ⟨_, hcontrol⟩
    · exact congrArg Control.call? hcontrol
    · exact congrArg Control.call? hcontrol
  · cases hrunning.symm.trans hcrash

/-- While a run goes on, its machine is not finished, or it would have noticed. -/
theorem not_isFinished_of_running (k : Nat) :
    ((start settings commands device cancelled).steps settings d k).machine.isFinished ≠ true := by
  intro hfinished
  obtain ⟨_, flow, hcontrol⟩ := (Machine.isFinished_eq_true_iff _).mp hfinished
  have hrunning := (turn_of_running hforever k).2
  simp [Machine.turn, hcontrol, hfinished, Signal.status] at hrunning

end

/-- A run of a bounded script does not go on for ever. -/
theorem exists_over {commands : List Command} (hbounded : Bounded commands) (device : σ)
    (cancelled : Bool) :
    ∃ k, ((start settings commands device cancelled).steps settings d k).status ≠ .running := by
  refine Classical.byContradiction fun hnever => ?_
  have hforever (k : Nat) :
      ((start settings commands device cancelled).steps settings d k).status = .running :=
    Decidable.byContradiction fun hover => hnever ⟨k, hover⟩
  obtain ⟨n, hfinished⟩ := (callsReturn_of_running hforever).ends hbounded
  exact not_isFinished_of_running hforever n hfinished

/-- A script without `while` and without jumps ends whatever its surroundings do and whenever it is
cancelled, as long as its calls come back. A run of it is always over some time, and it is over
because the script has come to its end unless a call breaks down. -/
theorem bounded_terminates {commands : List Command} (hbounded : Bounded commands) :
    (∀ c : Course settings commands, c.CallsReturn → ∃ n, (c.state n).isFinished = true) ∧
      ∀ (device : σ) (cancelled : Bool),
        let run k := (start settings commands device cancelled).steps settings d k
        (∃ k, (run k).status ≠ .running) ∧ (d.Returns → ∃ k, (run k).status = .finished) := by
  refine ⟨fun c hreturn => hreturn.ends hbounded, fun device cancelled => ?_⟩
  intro run
  have hover := exists_over settings d hbounded device cancelled
  refine ⟨hover, fun hreturns => ?_⟩
  have hwhole (o : Overflow) (k : Nat) : (run k).status ≠ .crashed o := by
    induction k with
    | zero => nofun
    | succ k ih =>
      change (steps settings d (k + 1) _).status ≠ _
      rw [steps_succ]
      exact status_step_ne_crashed settings d hreturns ih
  obtain ⟨k, hover⟩ := hover
  refine ⟨k, ?_⟩
  cases hstatus : (run k).status with
  | running => exact absurd hstatus hover
  | finished => rfl
  | crashed o => exact absurd hstatus (hwhole o k)

/-- A device on which every call succeeds at once and nothing is ever found. -/
def silentDevice : Device Unit where
  perform device _ := (⟨.ok (), none, false⟩, device)
  search device _ := (⟨.ok ImageMatch.notFound, none, false⟩, device)
  tell device _ := ([], false, device)

/-- Functions that call themselves and each other, several times over, and define each other anew. -/
def mutualCalls : List Command :=
  [.function 1 "f" [.leaf 2 (.call "f"), .leaf 3 (.call "g")],
    .function 5 "g"
      [.counted 6 ⟨1000, by decide, by decide⟩ (some "i")
        [.leaf 7 (.call "g"), .function 8 "f" [.leaf 9 (.call "g"), .leaf 10 (.call "f")]]],
    .leaf 14 (.call "f")]

/-- Far more calls are made than could be waited for, but the run ends. -/
theorem mutualCalls_ends :
    Bounded mutualCalls ∧ silentDevice.Returns ∧
      ∃ k, ((start Settings.default mutualCalls () false).steps Settings.default silentDevice k).status =
        .finished := by
  have hbounded : Bounded mutualCalls := by decide
  have hreturns : silentDevice.Returns := ⟨by simp [silentDevice], by simp [silentDevice]⟩
  exact ⟨hbounded, hreturns,
    ((bounded_terminates Settings.default silentDevice hbounded).2 () false).2 hreturns⟩

end Run

end TouchScript
