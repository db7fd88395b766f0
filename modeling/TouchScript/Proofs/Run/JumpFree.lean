import TouchScript.Proofs.Labels.Relabelled
import TouchScript.Proofs.Run.Agreement
import TouchScript.Run.Rehearsal

namespace TouchScript

variable {σ : Type}

namespace Ending

/-- How far a run has come that agrees with an evaluation. -/
def status : Ending → RunStatus
  | .done | .stopped => .finished
  | .crashed o => .crashed o
  | .cut => .running

/-- How a run that agrees with an evaluation reports to have ended. -/
def outcome : Ending → Outcome
  | .stopped => .stopped
  | .done | .crashed _ | .cut => .completed

/-- Only where an evaluation is cut there is a run that goes on. -/
theorem status_eq_running {ending : Ending} : ending.status = .running ↔ ending = .cut := by
  cases ending <;> simp [status]

end Ending

namespace Evaluation

/-- The meaning does not depend on when labels become known. -/
theorem sequence_resolving (settings : Settings) (d : Device σ) (mode : LabelResolution) (fuel : Nat) :
    sequence (settings.resolving mode) d fuel = sequence settings d fuel := by
  induction fuel with
  | zero => rfl
  | succ fuel ih =>
    funext callDepth commands w
    rw [sequence, sequence, ih]
    rfl

end Evaluation

namespace Run

/-- A run has come to what an evaluation comes to. -/
structure Agrees (run : Run (σ × List DeviceCall)) (result : Evaluation σ) : Prop where
  status : run.status = result.1.status
  report : run.report =
    ⟨result.1.outcome, result.2.steps, result.2.errors.toList, result.2.values⟩
  calls : run.calls = result.2.calls
  elapsed : run.elapsed = result.2.elapsed
  device : run.device.1 = result.2.device

section

variable {settings : Settings} {d : Device σ} {run : Run (σ × List DeviceCall)} {result : Evaluation σ}

/-- Outside of all frames a run ends as the evaluation does. -/
theorem Follows.agrees {fuel : Nat} (h : Follows settings d fuel [] 0 result run) :
    ∃ k, Agrees (run.steps settings (d.logged none) k) result ∧ (result.1 = .cut → fuel ≤ k) := by
  obtain ⟨k, hmeets⟩ := h
  obtain ⟨ending, w⟩ := result
  cases ending with
  | done =>
    obtain ⟨⟨labels, events, hrun⟩, _⟩ := hmeets
    refine ⟨k + 1, ?_, nofun⟩
    rw [steps_succ, hrun]
    exact ⟨rfl, rfl, rfl, rfl, rfl⟩
  | stopped =>
    obtain ⟨labels, events, callDepth, hrun⟩ := hmeets
    refine ⟨k + 1, ?_, nofun⟩
    rw [steps_succ, hrun]
    exact ⟨rfl, rfl, rfl, rfl, rfl⟩
  | crashed o =>
    obtain ⟨labels, events, frames, control, callDepth, hrun⟩ := hmeets
    refine ⟨k, ?_, nofun⟩
    rw [hrun]
    exact ⟨rfl, rfl, rfl, rfl, rfl⟩
  | cut =>
    obtain ⟨hbound, labels, events, frames, control, callDepth, hrun⟩ := hmeets
    refine ⟨k, ?_, fun _ => hbound⟩
    rw [hrun]
    exact ⟨rfl, rfl, rfl, rfl, rfl⟩

end

variable (settings : Settings) (d : Device σ)

/-- Without jumps the time at which labels become known makes no difference. -/
theorem resolving_relabelled_of_jumpFree {commands : List Command} (hfree : JumpFree commands)
    (device : σ) (cancelled : Bool) (k : Nat) :
    Relabelled (resolving settings d commands device cancelled .lazy k)
      (resolving settings d commands device cancelled .eager k) := by
  induction k with
  | zero =>
    refine ⟨?_, rfl, rfl, rfl, rfl⟩
    exact (Machine.Relabelled.refl ⟨Context.empty, [], .fetch, 0, 0, false, #[], #[]⟩).enter
      (settings.resolving .lazy) .eager commands
  | succ k ih =>
    let c := course (settings.resolving .lazy) d commands device cancelled
    have hnone {line : Nat} {instruction : Instruction} {label : String}
        (hcurrent : (c.state k).skeleton.current? = some (.leaf line instruction))
        (hjump : instruction.jumpLabel? = some label) : False := by
      have hmem := hfree _ ((c.within_script k).mem_current hcurrent)
      simp [Command.isStructured, hjump] at hmem
    rw [resolving_succ, resolving_succ]
    refine (ih.step (settings.resolving .lazy) .eager d ?_).resolve_right ?_
    · intro line instruction label target _ hcurrent hjump
      exact (hnone hcurrent hjump).elim
    · rintro ⟨_, line, instruction, label, hcurrent, hjump, _⟩
      exact hnone hcurrent hjump

/-- A run that is over stays as it is. -/
theorem resolving_of_over {τ : Type} (e : Device τ) (commands : List Command) (device : τ)
    (cancelled : Bool) (mode : LabelResolution) {j k : Nat} (hle : j ≤ k)
    (hover : (resolving settings e commands device cancelled mode j).status ≠ .running) :
    resolving settings e commands device cancelled mode k =
      resolving settings e commands device cancelled mode j := by
  obtain ⟨more, rfl⟩ := Nat.exists_eq_add_of_le hle
  rw [resolving, steps_add]
  exact steps_of_over _ _ hover more

/-- However deep the evaluation goes, the run comes to the same when it has taken as many turns, or
later. -/
theorem exists_agrees {commands : List Command} (hfree : JumpFree commands) (device : σ)
    (mode : LabelResolution) (fuel : Nat) :
    ∃ k, fuel ≤ k ∧
      Agrees (resolving settings (d.logged none) commands (device, []) false mode k)
        (Evaluation.sequence settings d fuel 0 commands (.new device)) := by
  have hwalk := walkFollows_sequence (settings.resolving mode) d fuel 0 hfree
  rw [Evaluation.sequence_resolving] at hwalk
  have hstart : At (start (settings.resolving mode) commands (device, []) false)
      [.sequence 0 commands 0] 0 .fetch (World.new device) := ⟨⟨_, _, rfl⟩, nofun⟩
  obtain ⟨k, hagrees, hcut⟩ := (hwalk _ _ [] _ hstart).agrees
  by_cases hending : (Evaluation.sequence settings d fuel 0 commands (.new device)).1 = .cut
  · exact ⟨k, hcut hending, hagrees⟩
  · -- The run is over, so that later it is still the same.
    have hover : (resolving settings (d.logged none) commands (device, []) false mode k).status ≠
        .running := fun hrunning => hending (Ending.status_eq_running.mp (hagrees.status.symm.trans hrunning))
    refine ⟨k + fuel, Nat.le_add_left fuel k, ?_⟩
    rw [resolving_of_over settings _ commands _ false mode (Nat.le_add_right k fuel) hover]
    exact hagrees

/-- A run that is over after `k` turns has come to what the evaluation comes to that goes `k` deep. -/
theorem agrees_of_over {commands : List Command} (hfree : JumpFree commands) (device : σ)
    (mode : LabelResolution) {k : Nat}
    (hover : (resolving settings (d.logged none) commands (device, []) false mode k).status ≠ .running) :
    Agrees (resolving settings (d.logged none) commands (device, []) false mode k)
      (Evaluation.sequence settings d k 0 commands (.new device)) := by
  obtain ⟨j, hle, hagrees⟩ := exists_agrees settings d hfree device mode k
  rw [← resolving_of_over settings _ commands _ false mode hle hover]
  exact hagrees

/-- A script without jumps has a plain meaning. At every turn it makes no difference for a run when
labels become known. Either way the run comes to whatever the evaluation of the script comes to, however
deep that goes, and a run that is over has come to what an evaluation comes to that goes as deep as the
run took turns; so the run ends exactly if an evaluation need not be cut. What a run calls before its end
is what a deep enough evaluation calls first. In an evaluation a gesture is made as it is written, with no
time instead of a negative one, and the passes of a counted loop are numbered from one on. -/
theorem jump_free_semantics {commands : List Command} (hfree : JumpFree commands) (device : σ) :
    let run := resolving settings (d.logged none) commands (device, []) false
    let meaning fuel := Evaluation.sequence settings d fuel 0 commands (.new device)
    (∀ k, (run .lazy k).status = (run .eager k).status ∧ (run .lazy k).report = (run .eager k).report ∧
      (run .lazy k).calls = (run .eager k).calls ∧ (run .lazy k).elapsed = (run .eager k).elapsed) ∧
    (∀ mode,
      (∀ fuel, ∃ k, Agrees (run mode k) (meaning fuel)) ∧
      (∀ k, (run mode k).status ≠ .running → Agrees (run mode k) (meaning k)) ∧
      ((∃ k, (run mode k).status ≠ .running) ↔ ∃ fuel, (meaning fuel).1 ≠ .cut) ∧
      ∀ k, (run mode k).calls <+: (meaning k).2.calls) ∧
    (∀ g : Gesture Number, g.Alike (fun n ms => ms.val = max 0 n.val) (g.map World.lasting)) ∧
    ∀ count : PassCount, (passNumbers 0 count.val.toNat).map Ranged.val =
      (List.range' 1 count.val.toNat).map fun (n : Nat) => (n : Int) := by
  intro run meaning
  refine ⟨fun k => ?_, fun mode => ⟨fun fuel => ?_, fun k hover => ?_, ⟨?_, ?_⟩, fun k => ?_⟩,
    Gesture.alike_map World.val_lasting, map_val_passNumbers⟩
  · -- The two ways of knowing labels differ in the tables of labels only.
    have hsame := resolving_relabelled_of_jumpFree settings (d.logged none) hfree (device, []) false k
    exact ⟨hsame.status.symm, hsame.report.symm, (congrArg Prod.snd hsame.device).symm, hsame.elapsed.symm⟩
  · obtain ⟨k, _, hagrees⟩ := exists_agrees settings d hfree device mode fuel
    exact ⟨k, hagrees⟩
  · exact agrees_of_over settings d hfree device mode hover
  · rintro ⟨k, hover⟩
    have hagrees := agrees_of_over settings d hfree device mode hover
    exact ⟨k, fun hending => hover (hagrees.status.trans (Ending.status_eq_running.mpr hending))⟩
  · rintro ⟨fuel, hending⟩
    obtain ⟨k, _, hagrees⟩ := exists_agrees settings d hfree device mode fuel
    exact ⟨k, fun hrunning => hending (Ending.status_eq_running.mp (hagrees.status.symm.trans hrunning))⟩
  · obtain ⟨j, hle, hagrees⟩ := exists_agrees settings d hfree device mode k
    obtain ⟨more, rfl⟩ := Nat.exists_eq_add_of_le hle
    rw [← hagrees.calls]
    exact calls_grow _ d _ none k more

/-- A function with two gestures and a delay, a counted loop that calls it, and a stop before the last
command. -/
def repeatedPress : List Command :=
  [.function 1 "press"
      [.leaf 2 (.gesture (.longPress ⟨⟨120, by decide, by decide⟩, ⟨340, by decide, by decide⟩⟩
        ⟨-50, by decide, by decide⟩)),
        .leaf 3 (.gesture (.swipe ⟨⟨120, by decide, by decide⟩, ⟨340, by decide, by decide⟩⟩
          ⟨⟨128, by decide, by decide⟩, ⟨48, by decide, by decide⟩⟩ ⟨275, by decide, by decide⟩)),
        .leaf 4 (.delay ⟨1050, by decide, by decide⟩)],
    .counted 6 ⟨4, by decide, by decide⟩ (some "i") [.leaf 7 (.call "press")],
    .leaf 9 (.log "passes: @i"), .leaf 10 .stop, .leaf 11 (.log "never")]

/-- Both gestures are made in each pass, the first with no time instead of a negative one and the second
with the time that is written. The delays pass, and after each gesture the time in which the screen
settles, and the run is stopped. -/
theorem repeatedPress_agrees :
    let corner : Point := ⟨⟨120, by decide, by decide⟩, ⟨340, by decide, by decide⟩⟩
    let press : DeviceCall := .gesture (.longPress corner ⟨0, by decide, by decide⟩)
    let swipe : DeviceCall :=
      .gesture (.swipe corner ⟨⟨128, by decide, by decide⟩, ⟨48, by decide, by decide⟩⟩
        ⟨275, by decide, by decide⟩)
    JumpFree repeatedPress ∧ ∀ mode, ∃ k,
      let run := resolving Settings.default (Rehearsal.device.logged none) repeatedPress
        (.plain (.new [] [] false), []) false mode k
      run.status = .finished ∧ run.report = ⟨.stopped, 20, [], []⟩ ∧
        run.calls =
          [press, swipe, press, swipe, press, swipe, press, swipe, .tell (.message "passes: 4")] ∧
        run.elapsed = 4600 := by
  have hfree : JumpFree repeatedPress := by decide
  refine ⟨hfree, fun mode => ?_⟩
  obtain ⟨_, hmeaning, _⟩ := jump_free_semantics Settings.default Rehearsal.device hfree
    (.plain (.new [] [] false))
  obtain ⟨k, hagrees⟩ := (hmeaning mode).1 4
  refine ⟨k, hagrees.status.trans ?_, hagrees.report.trans ?_, hagrees.calls.trans ?_,
    hagrees.elapsed.trans ?_⟩
  · decide
  · rfl
  · decide
  · decide

end Run

end TouchScript
