import TouchScript.Proofs.Machine.Gesture
import TouchScript.Proofs.Run.Attribution
import TouchScript.Proofs.Run.Cancellation
import TouchScript.Proofs.Script.Review

namespace TouchScript

namespace Gesture

/-- A gesture on the screen that covers some distance and takes some time, if it has a distance and a
duration. -/
structure Feasible {lo hi : Int} (g : Gesture (Ranged lo hi)) : Prop where
  points : ∀ p ∈ g.points, 0 ≤ p.x.val ∧ 0 ≤ p.y.val
  distance : ∀ distance ∈ g.distance?, 0 < distance.val
  duration : ∀ duration ∈ g.duration?, 0 < duration.val

/-- A gesture is feasible exactly if nothing about it is suspicious. -/
theorem feasible_iff {g : Gesture Number} : g.Feasible ↔ g.concerns = [] := by
  have hconcerns : g.concerns = [] ↔ (∀ p ∈ g.points, 0 ≤ p.x.val ∧ 0 ≤ p.y.val) ∧
      (∀ distance ∈ g.distance?, 0 < distance.val) ∧ ∀ duration ∈ g.duration?, 0 < duration.val := by
    simp [concerns, List.filter_eq_nil_iff, Point.isOffScreen]
  rw [hconcerns]
  exact ⟨fun h => ⟨h.points, h.distance, h.duration⟩, fun h => ⟨h.1, h.2.1, h.2.2⟩⟩

/-- A feasible gesture is sent as it is written. -/
theorem Feasible.toMillis {g : Gesture Number} (h : g.Feasible) :
    (g.map Number.toMillis).Feasible ∧ (g.map Number.toMillis).map Ranged.val = g.map Ranged.val := by
  have hkept : ∀ duration ∈ g.duration?, (Number.toMillis duration).val = duration.val := fun duration hd =>
    Int.max_eq_right (Int.le_of_lt (h.duration duration hd))
  refine ⟨⟨?_, ?_, ?_⟩, ?_⟩
  · simpa using h.points
  · simpa using h.distance
  · intro sent hsent
    rw [duration?_map, Option.mem_def, Option.map_eq_some_iff] at hsent
    obtain ⟨duration, hduration, rfl⟩ := hsent
    rw [hkept duration hduration]
    exact h.duration duration hduration
  · rw [map_map]
    exact map_congr hkept

end Gesture

section Quiet

variable {commands : List Command} (hquiet : warnings commands = [])

include hquiet

/-- In a script without warnings nothing is to be warned of anywhere. -/
theorem concerns_of_quiet {command : Command} (hmem : command ∈ Command.allOf commands) :
    ∃ site : Site, site.command = command ∧ site.concerns = [] := by
  rw [← Command.map_command_sitesOf []] at hmem
  obtain ⟨site, hsite, rfl⟩ := List.mem_map.mp hmem
  rw [warnings, Command.warningsOf_eq_flatMap Command.Seen.nil, List.flatMap_eq_nil_iff] at hquiet
  exact ⟨site, rfl, List.map_eq_nil_iff.mp (hquiet site hsite)⟩

/-- In a script without warnings all gestures are feasible. -/
theorem feasible_of_quiet {line : Nat} {g : Gesture Number}
    (hmem : .leaf line (.gesture g) ∈ Command.allOf commands) : g.Feasible := by
  obtain ⟨⟨_, _, _⟩, rfl, hconcerns⟩ := concerns_of_quiet hquiet hmem
  rw [Gesture.feasible_iff, Gesture.concerns_eq]
  exact hconcerns

/-- In a script without warnings no delay is negative. -/
theorem nonneg_of_quiet {line : Nat} {ms : Number}
    (hmem : .leaf line (.delay ms) ∈ Command.allOf commands) : 0 ≤ ms.val := by
  obtain ⟨⟨_, _, _⟩, rfl, hconcerns⟩ := concerns_of_quiet hquiet hmem
  refine Int.not_lt.mp fun hnegative => ?_
  simp [Site.concerns, hnegative] at hconcerns

end Quiet

namespace Course

variable {settings : Settings} {commands : List Command} (c : Course settings commands)

/-- A gesture is sent for a dispatched command of the script: with nothing to be warned of, and with the
numbers that are written there. -/
def Sends (n : Nat) (g : Gesture Millis) : Prop :=
  g.Feasible ∧ ∃ j line written, j < n ∧ c.Dispatches j (.leaf line (.gesture written)) ∧
    .leaf line (.gesture written) ∈ Command.allOf commands ∧ g.map Ranged.val = written.map Ranged.val

/-- A machine that is about to carry out a gesture has dispatched its command. -/
theorem exists_dispatches_of_perform {n line : Nat} {g : Gesture Millis}
    (hperform : (c.state n).control = .perform line g) :
    ∃ j written, j < n ∧ c.Dispatches j (.leaf line (.gesture written)) ∧
      g = written.map Number.toMillis := by
  induction n with
  | zero =>
    rw [c.start] at hperform
    cases hperform
  | succ n ih =>
    obtain ⟨σ, d, device, cancelled, hturn⟩ := c.turn n
    by_cases hrunning : ((c.state n).turn settings d device cancelled).signal.status = .running
    · have hcall : (c.state (n + 1)).control.call? ≠ none := by
        rw [hperform]
        nofun
      obtain ⟨scope, sequence, index, outer, command, hfetch, hframes, hcommand, hnext⟩ :=
        Machine.dispatching_turn settings (c.state n) d device cancelled hrunning (hturn ▸ hcall)
      rw [← hturn] at hnext
      rw [hnext] at hcall
      have hawaits := Machine.awaits_dispatch settings (c.state n) hcall
      rw [← hnext, hperform] at hawaits
      cases hawaits with
      | @gesture _ written =>
        exact ⟨n, written, Nat.lt_succ_self n,
          ⟨hfetch, scope, sequence, index, outer, hframes, hcommand, hnext⟩, rfl⟩
    · -- The run is over, and the machine stays in the call that has ended it.
      have hsame := (Machine.machine_turn_of_over settings d _ device cancelled hrunning).1
      rw [hturn, hsame] at hperform
      obtain ⟨j, written, hlt, hdispatch, hsent⟩ := ih hperform
      exact ⟨j, written, Nat.lt_succ_of_lt hlt, hdispatch, hsent⟩

variable {c}

/-- A dispatched delay is a pause, and the turn after it sleeps. -/
theorem Dispatches.pause {n line : Nat} {ms : Number} (h : c.Dispatches n (.leaf line (.delay ms))) :
    (c.state (n + 1)).control = .pause ms.toMillis := by
  obtain ⟨_, _, _, _, _, _, _, hnext⟩ := h
  rw [hnext]
  rfl

/-- A gesture that is dispatched in a script without warnings is sent as it is written. -/
theorem sends_of_dispatches (hquiet : warnings commands = []) {j n line : Nat} {written : Gesture Number}
    (hlt : j < n) (h : c.Dispatches j (.leaf line (.gesture written))) :
    c.Sends n (written.map Number.toMillis) := by
  obtain ⟨hfeasible, hkept⟩ := (feasible_of_quiet hquiet h.mem_allOf).toMillis
  exact ⟨hfeasible, j, line, written, hlt, h, h.mem_allOf, hkept⟩

end Course

namespace Run

variable {σ : Type} {settings : Settings} {d : Device σ} {commands : List Command} {device : σ}
  {cancelled : Bool}

/-- A dispatched delay takes two turns, of which the second sleeps. -/
theorem elapsed_of_delay {n line : Nat} {ms : Number}
    (h : (course settings d commands device cancelled).Dispatches n (.leaf line (.delay ms))) :
    (reached settings d commands device cancelled (n + 2)).elapsed =
      (reached settings d commands device cancelled n).elapsed + Clock.sleepTime ms.toMillis.toNat := by
  have hsucc := reached_succ_of_dispatches h
  have hrunning : (reached settings d commands device cancelled (n + 1)).status = .running :=
    (congrArg Run.status hsucc).trans (going_of_dispatches h).1
  have helapsed : (reached settings d commands device cancelled (n + 1)).elapsed =
      (reached settings d commands device cancelled n).elapsed := by rw [hsucc]
  rw [reached_succ _ _ _ _ _ (n + 1), step_of_pause settings d _ hrunning h.pause, helapsed]

end Run

/-- What a script says is what happens, number by number, however its runs go. -/
structure Literal (settings : Settings) (commands : List Command) : Prop where
  /-- Every gesture that a machine is about to carry out is feasible and as it is written. -/
  performs : ∀ (c : Course settings commands) (n line : Nat) (g : Gesture Millis),
    (c.state n).control = .perform line g → c.Sends n g
  /-- Every delay asks for a sleep of as many milliseconds as are written, even in a run that has been
  cancelled. -/
  asks : ∀ (c : Course settings commands) (n line : Nat) (ms : Number),
    c.Dispatches n (.leaf line (.delay ms)) → ∃ asked : Nat, (asked : Int) = ms.val ∧
      ∀ (σ : Type) (d : Device σ) (device : σ) (cancelled : Bool),
        ((c.state (n + 1)).turn settings d device cancelled).signal = .sleep asked
  /-- Every gesture that a device has received is feasible and as it is written. -/
  receives : ∀ (σ : Type) (d : Device σ) (device : σ) (cancelled : Bool) (k : Nat) (g : Gesture Millis),
    .gesture g ∈ Run.callsMade settings d commands device cancelled k →
      (Run.course settings d commands device cancelled).Sends k g
  /-- Every delay takes as many milliseconds as are written, or the longest sleep if this is shorter. -/
  sleeps : ∀ (σ : Type) (d : Device σ) (device : σ) (cancelled : Bool) (n line : Nat) (ms : Number),
    (Run.course settings d commands device cancelled).Dispatches n (.leaf line (.delay ms)) →
      ((Run.reached settings d commands device cancelled (n + 2)).elapsed : Int) =
        (Run.reached settings d commands device cancelled n).elapsed + min ms.val Clock.longestSleep

/-- A script without warnings is carried out to the letter: nothing in it is off the screen, no number is
clamped, and no sleep is cut short but by the clock. -/
theorem literal_of_quiet (settings : Settings) {commands : List Command} (hquiet : warnings commands = []) :
    Literal settings commands where
  performs c n line g hperform := by
    obtain ⟨j, written, hlt, hdispatch, rfl⟩ := c.exists_dispatches_of_perform hperform
    exact Course.sends_of_dispatches hquiet hlt hdispatch
  asks c n line ms hdispatch := by
    have hnonneg := nonneg_of_quiet hquiet hdispatch.mem_allOf
    refine ⟨ms.toMillis.toNat, ?_, fun σ d device cancelled => ?_⟩
    · simp only [Millis.toNat, Number.toMillis]
      omega
    · rw [Machine.turn, hdispatch.pause]
  receives σ d device cancelled k g hcall := by
    obtain ⟨n, command, hlt, hdispatch, control, hawaits, hmade⟩ := Run.dispatches_of_mem_calls hcall
    cases hawaits with
    | gesture =>
      cases hmade
      exact Course.sends_of_dispatches hquiet hlt hdispatch
    | _ => cases hmade
  sleeps σ d device cancelled n line ms hdispatch := by
    have hnonneg := nonneg_of_quiet hquiet hdispatch.mem_allOf
    rw [Run.elapsed_of_delay hdispatch]
    simp only [Clock.sleepTime, Millis.toNat, Number.toMillis]
    omega

/-- A script that presses in a function, and calls the function and waits several times over. -/
def pressesAndWaits : List Command :=
  [.function 1 "press"
      [.leaf 2 (.gesture (.longPress ⟨⟨317, by decide, by decide⟩, ⟨904, by decide, by decide⟩⟩
        ⟨1350, by decide, by decide⟩))],
    .counted 4 ⟨6, by decide, by decide⟩ none
      [.leaf 5 (.call "press"), .leaf 6 (.delay ⟨45, by decide, by decide⟩)]]

/-- The first two presses are sent as they are written, with a delay between them. -/
theorem pressesAndWaits_literal :
    let press : Gesture Millis :=
      .longPress ⟨⟨317, by decide, by decide⟩, ⟨904, by decide, by decide⟩⟩ ⟨1350, by decide, by decide⟩
    let calls :=
      Run.callsMade Settings.default Rehearsal.device pressesAndWaits (.plain (.new [] [] false)) false
    let run :=
      Run.reached Settings.default Rehearsal.device pressesAndWaits (.plain (.new [] [] false)) false
    warnings pressesAndWaits = [] ∧ calls 24 = [.gesture press, .gesture press] ∧
      press.Feasible ∧ ((run 14).elapsed : Int) = (run 12).elapsed + 45 := by
  intro press calls run
  have hquiet : warnings pressesAndWaits = [] := by decide
  have hcalls : calls 24 = [.gesture press, .gesture press] := by decide
  have hmem : .gesture press ∈ calls 24 := by
    rw [hcalls]
    exact .head _
  have hliteral := literal_of_quiet Settings.default hquiet
  have hsent := hliteral.receives _ Rehearsal.device (.plain (.new [] [] false)) false 24 press hmem
  have hdelay := hliteral.sleeps _ Rehearsal.device (.plain (.new [] [] false)) false 12 6
    ⟨45, by decide, by decide⟩ ⟨rfl, _, _, _, _, rfl, rfl, rfl⟩
  exact ⟨hquiet, hcalls, hsent.1, hdelay⟩

/-- A delay of thirty years and a millisecond. -/
def longDelay : List Command :=
  [.leaf 1 (.delay ⟨946080000001, by decide, by decide⟩)]

/-- There is nothing to be warned of, and still the delay ends a millisecond early. -/
theorem longDelay_cut_short :
    let run := Run.reached Settings.default Rehearsal.device longDelay (.plain (.new [] [] false)) false
    warnings longDelay = [] ∧
      (Run.course Settings.default Rehearsal.device longDelay (.plain (.new [] [] false)) false).Dispatches 0
        (.leaf 1 (.delay ⟨946080000001, by decide, by decide⟩)) ∧
      (run 0).elapsed = 0 ∧ (run 2).elapsed = 946080000000 ∧ (run 5).status = .finished ∧
      (run 5).elapsed ≠ 946080000001 := by
  intro run
  have hquiet : warnings longDelay = [] := by decide
  have hdispatch : (Run.course Settings.default Rehearsal.device longDelay (.plain (.new [] [] false))
      false).Dispatches 0 (.leaf 1 (.delay ⟨946080000001, by decide, by decide⟩)) :=
    ⟨rfl, _, _, _, _, rfl, rfl, rfl⟩
  exact ⟨hquiet, hdispatch, by decide, by decide, by decide, by decide⟩

end TouchScript
