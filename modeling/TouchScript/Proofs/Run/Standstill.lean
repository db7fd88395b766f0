import TouchScript.Proofs.Run.Outcome
import TouchScript.Proofs.Run.Termination

namespace TouchScript

/-- The passes that the counted loops among some frames may still make. -/
def Frame.passesLeft : List Frame → Nat
  | [] => 0
  | .counted count passes _ _ :: outer => count - passes + passesLeft outer
  | _ :: outer => passesLeft outer

namespace Skeleton

variable {settings : Settings} {s s' : Skeleton}

/-- A bound on what a machine may do before it dispatches a command or begins a pass of a `while`:
between two commands there are only so many frames to leave and so many passes of counted loops to
make. -/
def toDo (s : Skeleton) : Nat :=
  3 * s.frames.length + 4 * Frame.passesLeft s.frames + (s.control.delay + 4 * s.control.waits)

/-- A pass of a `while` begins. -/
def BeginsPass (settings : Settings) (s s' : Skeleton) : Prop :=
  ∃ condition body outer, s.control = .again ∧ s.frames = .loop condition body :: outer ∧
    s' = s.enter settings body

/-- Leaving the innermost frame leaves less to do. -/
theorem toDo_pop {frame : Frame} {outer : List Frame} {flow : Flow} (hframes : s.frames = frame :: outer)
    (hless : s'.frames = outer) (hleave : s'.control = .leave flow) : s'.toDo < s.toDo := by
  have hpasses : Frame.passesLeft outer ≤ Frame.passesLeft (frame :: outer) := by
    cases frame <;> simp [Frame.passesLeft]
  simp only [toDo, hframes, hless, hleave, Control.delay, Control.waits, List.length_cons]
  omega

/-- Every move leaves less to do, unless a command is looked at or a pass of a `while` begins. -/
theorem Goes.toDo_lt (hgoes : s.Goes settings s') (hframes : s.frames ≠ []) (hfetch : s.control ≠ .fetch) :
    s'.toDo < s.toDo ∨ BeginsPass settings s s' := by
  cases hgoes.move with
  | idle hidle =>
    rcases hidle with hwaiting | hnone
    · exact absurd (hgoes.waits hwaiting) (Nat.lt_irrefl _)
    · exact absurd hnone hframes
  | @resume control hwaiting hcontrol =>
    left
    have hless := hgoes.waits hwaiting
    have hdelay : control.delay ≤ 3 := by cases control <;> simp [Control.delay]
    simp only [toDo] at hless ⊢
    omega
  | pass hagain hloop => exact .inr ⟨_, _, _, hagain, hloop, rfl⟩
  | count hagain hcounted hpasses =>
    left
    simp only [toDo, enter, hagain, hcounted, Frame.passesLeft, Control.delay, Control.waits,
      List.length_cons]
    omega
  | exit _ hbefore _ _ | unwind _ hbefore _ _ | interrupt _ hbefore _ _ | leaveCall _ hbefore =>
    exact .inl (toDo_pop hbefore rfl rfl)
  | rejoin hcontrol | repass hcontrol _ | recount hcontrol _ =>
    left
    simp [toDo, hcontrol, Control.delay, Control.waits]
  | advance hcontrol hbefore | land hcontrol hbefore =>
    left
    simp [toDo, hcontrol, hbefore, Frame.passesLeft, Control.delay, Control.waits]
  | _ => contradiction

end Skeleton

namespace Course

variable {settings : Settings} {commands : List Command} {c : Course settings commands}

/-- A machine that looks at its innermost frame dispatches the current command, or leaves the frame
and has less to do. -/
theorem dispatches_or_toDo_lt {n : Nat} (hfetch : (c.state n).control = .fetch) :
    (∃ command, c.Dispatches n command) ∨
      (c.state (n + 1)).skeleton.toDo < (c.state n).skeleton.toDo := by
  obtain ⟨σ, d, device, cancelled, hturn⟩ := c.turn n
  have hnext : c.state (n + 1) = (c.state n).fetch settings cancelled := by
    rw [hturn, Machine.turn, hfetch]
  obtain ⟨scope, sequence, index, outer, hframes, ⟨command, hcommand, hdispatch⟩ | ⟨_, flow, hexit⟩⟩ :=
    Machine.fetch_cases settings hfetch (c.poised n) cancelled
  · left
    exact ⟨command, hfetch, scope, sequence, index, outer, hframes, hcommand, hnext.trans hdispatch⟩
  · right
    rw [hnext, hexit]
    exact Skeleton.toDo_pop hframes rfl rfl

/-- A machine that is not finished has a frame, as every course begins with one and a run without
frames is over. -/
theorem frames_ne_nil {n : Nat} (hnot : (c.state n).isFinished ≠ true) : (c.state n).frames ≠ [] := by
  intro hframes
  have hpoised : (c.state n).skeleton.Poised := c.poised n
  cases hcontrol : (c.state n).control with
  | leave flow => exact hnot ((Machine.isFinished_eq_true_iff _).mpr ⟨hframes, flow, hcontrol⟩)
  | _ => simp [Skeleton.Poised, Machine.skeleton, hcontrol, hframes] at hpoised

/-- A course that dispatches nothing more and does not end passes through a `while`. -/
theorem CallsReturn.exists_pass (hreturn : c.CallsReturn) {n : Nat}
    (hframes : ∀ i, (c.state i).frames ≠ [])
    (hnone : ∀ i, n ≤ i → ∀ command, ¬ c.Dispatches i command) :
    ∃ m, n ≤ m ∧ Skeleton.BeginsPass settings (c.state m).skeleton (c.state (m + 1)).skeleton := by
  generalize htoDo : (c.state n).skeleton.toDo = toDo
  induction toDo using Nat.strongRecOn generalizing n with
  | ind toDo ih =>
    have hnext (hless : (c.state (n + 1)).skeleton.toDo < (c.state n).skeleton.toDo) :
        ∃ m, n ≤ m ∧ Skeleton.BeginsPass settings (c.state m).skeleton (c.state (m + 1)).skeleton := by
      obtain ⟨m, hle, hpass⟩ := ih _ (htoDo ▸ hless) (fun i hle => hnone i (Nat.le_of_succ_le hle)) rfl
      exact ⟨m, Nat.le_of_succ_le hle, hpass⟩
    by_cases hfetch : (c.state n).control = .fetch
    · rcases dispatches_or_toDo_lt hfetch with ⟨command, hdispatch⟩ | hless
      · exact absurd hdispatch (hnone n (Nat.le_refl n) command)
      · exact hnext hless
    · rcases (hreturn.goes n).toDo_lt (hframes n) hfetch with hless | hpass
      · exact hnext hless
      · exact ⟨n, Nat.le_refl n, hpass⟩

end Course

namespace Run

variable {σ : Type} {settings : Settings} {d : Device σ} {commands : List Command} {device : σ}
  {cancelled : Bool}

/-- A run that begins a pass of a `while` does not have to end. -/
theorem going_of_beginsPass {m : Nat}
    (hrunning : (reached settings d commands device cancelled m).status = .running)
    (hpass : Skeleton.BeginsPass settings (reached settings d commands device cancelled m).machine.skeleton
      (reached settings d commands device cancelled (m + 1)).machine.skeleton) :
    (reached settings d commands device cancelled (m + 1)).isHalted = false := by
  obtain ⟨condition, body, outer, hagain, hloop, henter⟩ := hpass
  have hagain : (reached settings d commands device cancelled m).machine.control = .again := hagain
  have hloop : (reached settings d commands device cancelled m).machine.frames =
    .loop condition body :: outer := hloop
  have hstep := reached_succ settings d commands device cancelled m
  rw [step_of_running settings d hrunning] at hstep
  have hsame : (reached settings d commands device cancelled (m + 1)).isHalted =
      (reached settings d commands device cancelled m).isHalted := by
    rcases dispatches_or_carriesOn settings d commands device cancelled m with
      ⟨_, _, _, hdispatch⟩ | hcarries
    · cases hdispatch.1.symm.trans hagain
    · have hcancelled := congrArg Run.cancelled hstep
      simp only [Machine.cancelled_turn_eq, hagain, Control.call?, Option.any_none, Bool.or_false] at hcancelled
      simp only [isHalted, Machine.isHalted, hcancelled, hcarries.stopped]
  rw [hsame]
  refine Bool.eq_false_iff.mpr fun hhalted => ?_
  -- It would have left the loop.
  rw [isHalted] at hhalted
  have hexit : (reached settings d commands device cancelled (m + 1)).machine.frames = outer := by
    have hmachine := congrArg Run.machine hstep
    simp only [Machine.turn, hagain, Machine.again, hloop] at hmachine
    rw [hmachine, if_pos hhalted]
    rfl
  have hframes := congrArg (List.length ∘ Skeleton.frames) henter
  simp [Machine.skeleton, Skeleton.enter, hexit, hloop] at hframes
  omega

/-- A run that dispatches nothing more is over some time, or it is caught in a `while` that has no
commands. -/
theorem over_or_caught {n : Nat}
    (hnone : ∀ i, n ≤ i → ∀ command, ¬ (course settings d commands device cancelled).Dispatches i command) :
    (∃ k, (reached settings d commands device cancelled k).status ≠ .running) ∨
      ∃ m scope condition outer, n ≤ m ∧ (reached settings d commands device cancelled m).machine.frames =
        .sequence scope [] 0 :: .loop condition [] :: outer := by
  refine Classical.or_iff_not_imp_left.mpr fun hnever => ?_
  have hforever (k : Nat) : (reached settings d commands device cancelled k).status = .running :=
    Decidable.byContradiction fun hover => hnever ⟨k, hover⟩
  have hreturn := callsReturn_of_running hforever
  have hframes (i : Nat) : ((course settings d commands device cancelled).state i).frames ≠ [] :=
    Course.frames_ne_nil (not_isFinished_of_running hforever i)
  -- With nothing dispatched there is less and less to do, until a loop begins another pass.
  obtain ⟨m, hle, hpass⟩ := hreturn.exists_pass hframes hnone
  have hgoing := going_of_beginsPass (hforever m) hpass
  obtain ⟨condition, body, outer, _, hloop, henter⟩ := hpass
  have hfetch : (reached settings d commands device cancelled (m + 1)).machine.control = .fetch :=
    congrArg Skeleton.control henter
  have hpoised := (course settings d commands device cancelled).poised (m + 1)
  have hentered : (reached settings d commands device cancelled (m + 1)).machine.frames =
      .sequence _ body 0 :: .loop condition body :: outer :=
    (congrArg Skeleton.frames henter).trans (congrArg (_ :: ·) hloop)
  obtain ⟨scope, sequence, index, rest, hframes, hcases⟩ := Machine.fetch_cases settings hfetch hpoised
    (reached settings d commands device cancelled (m + 1)).cancelled
  cases hentered.symm.trans hframes
  have hmachine : (reached settings d commands device cancelled (m + 2)).machine =
      (reached settings d commands device cancelled (m + 1)).machine.fetch settings
        (reached settings d commands device cancelled (m + 1)).cancelled := by
    rw [reached_succ, step_of_running settings d (hforever (m + 1)), Machine.turn, hfetch]
  -- The pass would dispatch the first command of the body, if it had one.
  have hbody : body[0]? = none := by
    rcases hcases with ⟨command, hcommand, hdispatch⟩ | ⟨hhalted | hend, _⟩
    · refine absurd ?_ (hnone (m + 1) (Nat.le_succ_of_le hle) command)
      exact ⟨hfetch, _, _, _, _, hframes, hcommand, hmachine.trans hdispatch⟩
    · cases hgoing.symm.trans hhalted
    · exact hend
  obtain rfl : body = [] := by simpa using hbody
  exact ⟨m + 1, _, condition, outer, Nat.le_succ_of_le hle, hframes⟩

end Run

end TouchScript
