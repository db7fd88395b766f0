import TouchScript.Proofs.Geometry.Fingers
import TouchScript.Proofs.Run.Attribution
import TouchScript.Proofs.Run.Interference
import TouchScript.Proofs.Run.Standstill
import TouchScript.Run.Rehearsal
import TouchScript.Script

namespace TouchScript

/-- There is room for a finger on both sides of the point. -/
def Point.HasRoom (p : Point) : Prop :=
  -2147483648 + 20 ≤ p.x.val ∧ p.x.val ≤ 2147483647 - 20

/-- There is room exactly where the three fingers can be computed. -/
theorem Point.hasRoom_iff (p : Point) : p.HasRoom ↔ ∀ o, p.threeFingers ≠ .error o := by
  have hguards := p.guards_threeFingers
  cases hfingers : p.threeFingers with
  | ok points =>
    obtain ⟨⟨hl, _⟩, ⟨_, hr⟩⟩ := hguards.succeeds.mp ⟨points, hfingers⟩
    exact iff_of_true ⟨by omega, by omega⟩ nofun
  | error o =>
    refine iff_of_false (fun ⟨hmin, hmax⟩ => ?_) fun hnever => hnever o rfl
    obtain ⟨points, hpoints⟩ := hguards.succeeds.mpr ⟨⟨by omega, by omega⟩, ⟨by omega, by omega⟩⟩
    rw [hfingers] at hpoints
    cases hpoints

namespace Device

variable {σ : Type}

/-- A device that, if `composes` is set, does not have a tap of three fingers of its own. -/
def composing (d : Device σ) (composes : Bool) : Device σ where
  perform device g :=
    match composes, g with
    | true, .threeFingerTap p =>
      match p.threeFingers with
      | .ok points => d.perform device (.multiTap points)
      | .error o => (⟨.crash o, none, false⟩, device)
    | _, g => d.perform device g
  search := d.search
  tell := d.tell

/-- A device whose own calls come back breaks down only where it composes a tap without room. -/
theorem breakdown?_composing {d : Device σ} (hreturns : d.Returns) (composes : Bool) (device : σ)
    (call : DeviceCall) (o : Overflow) :
    (d.composing composes).breakdown? device call = some o ↔ composes = true ∧
      ∃ p, call = .gesture (.threeFingerTap p) ∧ p.threeFingers = .error o := by
  have hown (call : DeviceCall) : d.breakdown? device call ≠ some o := by
    rw [hreturns.breakdown?_eq_none]
    nofun
  cases call with
  | gesture g =>
    cases composes with
    | false => exact iff_of_false (hown (.gesture g)) (by rintro ⟨⟨⟩, _⟩)
    | true =>
      cases g with
      | threeFingerTap p =>
        cases hfingers : p.threeFingers with
        | ok points =>
          have hmulti := hown (.gesture (.multiTap points))
          simpa [breakdown?, composing, hfingers] using hmulti
        | error broken => simp [breakdown?, composing, hfingers, Reply.breakdown?]
      | _ => exact iff_of_false (hown (.gesture _)) (by rintro ⟨_, _, ⟨⟩, _⟩)
  | search path => exact iff_of_false (hown (.search path)) (by rintro ⟨_, _, ⟨⟩, _⟩)
  | tell call => exact iff_of_false (hown (.tell call)) (by rintro ⟨_, _, ⟨⟩, _⟩)

end Device

/-- A rehearsal composes its tap of three fingers in this way. -/
theorem Rehearsal.perform_composing (r : Rehearsal) (g : Gesture Millis) :
    (Rehearsal.device.composing r.composesThreeFingers).perform r g = Rehearsal.device.perform r g := by
  cases hcomposes : r.composesThreeFingers with
  | false => simp [Device.composing]
  | true =>
    cases g with
    | threeFingerTap p =>
      cases hfingers : p.threeFingers <;>
        simp [Device.composing, Rehearsal.device, Rehearsal.perform, hcomposes, hfingers]
    | _ => rfl

/-- A gesture is called only by a machine that waits for it. -/
theorem Control.eq_perform_of_call? {control : Control} {g : Gesture Millis}
    (hcall : control.call? = some (.gesture g)) : ∃ line, control = .perform line g := by
  cases control with
  | perform line _ =>
    cases hcall
    exact ⟨line, rfl⟩
  | _ => cases hcall

namespace Run

variable {σ : Type} {settings : Settings} {d : Device σ} {commands : List Command} {device : σ}
  {cancelled : Bool}

/-- The device breaks down in the call that a run makes next. -/
def BreaksIn (run : Run σ) (d : Device σ) (o : Overflow) : Prop :=
  run.status = .running ∧ ∃ call, run.machine.control.call? = some call ∧
    d.breakdown? run.device call = some o

/-- A run has broken down after a step if it had before, or breaks down in the call of this step. -/
theorem crashed_step (run : Run σ) (o : Overflow) :
    (run.step settings d).status = .crashed o ↔ run.status = .crashed o ∨ run.BreaksIn d o := by
  by_cases hrunning : run.status = .running
  · rw [step_of_running settings d hrunning]
    simp only [BreaksIn, hrunning, Machine.status_turn_eq_crashed_iff, true_and, reduceCtorEq, false_or]
  · rw [step_of_over settings d hrunning]
    simp [BreaksIn, hrunning]

/-- A run has broken down by some turn exactly if it broke down in a call at an earlier one. -/
theorem crashed_iff (k : Nat) (o : Overflow) :
    (reached settings d commands device cancelled k).status = .crashed o ↔
      ∃ j, j < k ∧ (reached settings d commands device cancelled j).BreaksIn d o := by
  induction k with
  | zero => simp [reached, start]
  | succ k ih => rw [reached_succ, crashed_step, ih, Nat.exists_lt_succ_right]

/-- A dispatched gesture is carried out next. -/
theorem perform_of_dispatches {j line : Nat} {written : Gesture Number}
    (hdispatch : (course settings d commands device cancelled).Dispatches j (.leaf line (.gesture written))) :
    (reached settings d commands device cancelled (j + 1)).status = .running ∧
      (reached settings d commands device cancelled (j + 1)).machine.control =
        .perform line (written.map Number.toMillis) := by
  have hsucc := reached_succ_of_dispatches hdispatch
  have hrunning := (going_of_dispatches hdispatch).1
  obtain ⟨_, _, _, _, _, _, _, hnext⟩ := hdispatch
  exact ⟨(congrArg Run.status hsucc).trans hrunning, congrArg Machine.control hnext⟩

/-- A gesture that is carried out has been dispatched just before. -/
theorem dispatches_of_perform {k line : Nat} {g : Gesture Millis}
    (hrunning : (reached settings d commands device cancelled k).status = .running)
    (hperform : (reached settings d commands device cancelled k).machine.control = .perform line g) :
    ∃ j written, k = j + 1 ∧ g = written.map Number.toMillis ∧
      (course settings d commands device cancelled).Dispatches j (.leaf line (.gesture written)) := by
  have hpending : DeviceCall.gesture g ∈ (reached settings d commands device cancelled k).pending := by
    rw [pending_of_running hrunning, hperform]
    exact List.mem_singleton_self _
  obtain ⟨j, command, hj, hdispatch, hawaits, _⟩ := dispatches_of_pending hpending
  rw [hperform] at hawaits
  cases hawaits with
  | @gesture _ written => exact ⟨j, written, hj, rfl, hdispatch⟩

/-- A device whose own calls come back breaks a run down exactly if the run dispatches a tap of three
fingers that the device composes and for which there is no room. -/
theorem crashed_iff_dispatches (hreturns : d.Returns) (composes : Bool) (k : Nat) (o : Overflow) :
    (reached settings (d.composing composes) commands device cancelled k).status = .crashed o ↔
      composes = true ∧ ∃ j line p, j + 1 < k ∧
        (course settings (d.composing composes) commands device cancelled).Dispatches j
          (.leaf line (.gesture (.threeFingerTap p))) ∧ p.threeFingers = .error o := by
  rw [crashed_iff]
  constructor
  · rintro ⟨i, hlt, hrunning, call, hcall, hbreak⟩
    obtain ⟨hcomposes, p, rfl, hroom⟩ := (Device.breakdown?_composing hreturns _ _ _ _).mp hbreak
    obtain ⟨line, hperform⟩ := Control.eq_perform_of_call? hcall
    obtain ⟨j, written, rfl, hwritten, hdispatch⟩ := dispatches_of_perform hrunning hperform
    cases written with
    | threeFingerTap q =>
      cases hwritten
      exact ⟨hcomposes, j, line, p, hlt, hdispatch, hroom⟩
    | _ => cases hwritten
  · rintro ⟨hcomposes, j, line, p, hlt, hdispatch, hroom⟩
    obtain ⟨hrunning, hperform⟩ := perform_of_dispatches hdispatch
    refine ⟨j + 1, hlt, hrunning, .gesture (.threeFingerTap p), ?_, ?_⟩
    · rw [hperform]
      rfl
    · exact (Device.breakdown?_composing hreturns _ _ _ _).mpr ⟨hcomposes, p, rfl, hroom⟩

variable (settings d commands device cancelled)

/-- What a run makes of all that its script says, with a device that has to compose its tap of three
fingers or has one of its own. -/
structure Endures (composes : Bool) : Prop where
  /-- A composed tap without room breaks the run down, and nothing else does. -/
  crashed : ∀ k o, (reached settings d commands device cancelled k).status = .crashed o ↔
    composes = true ∧ ∃ j line p, j + 1 < k ∧ (course settings d commands device cancelled).Dispatches j
      (.leaf line (.gesture (.threeFingerTap p))) ∧ p.threeFingers = .error o
  /-- If all taps of three fingers in the script have room, the run does not break down. -/
  unharmed : (∀ line p, .leaf line (.gesture (.threeFingerTap p)) ∈ Command.allOf commands → p.HasRoom) →
    ∀ k o, (reached settings d commands device cancelled k).status ≠ .crashed o
  /-- Before the next command is dispatched, a command has added one error to the report or none. -/
  errors : ∀ n command, (course settings d commands device cancelled).Dispatches n command →
    ∀ k, n < k →
      (∀ i, n < i → i < k → ∀ other, ¬ (course settings d commands device cancelled).Dispatches i other) →
      let errors k := (reached settings d commands device cancelled k).report.errors
      errors k = errors n ∨ ∃ e, errors k = errors n ++ [e]
  /-- A run that dispatches nothing more comes to its end, unless it breaks down or is caught in a
  `while` without commands. -/
  ends : ∀ n,
    (∀ i, n ≤ i → ∀ command, ¬ (course settings d commands device cancelled).Dispatches i command) →
      (∃ k, (reached settings d commands device cancelled k).status = .finished) ∨
      (∃ k o, (reached settings d commands device cancelled k).status = .crashed o) ∨
      ∃ m scope condition outer, n ≤ m ∧ (reached settings d commands device cancelled m).machine.frames =
        .sequence scope [] 0 :: .loop condition [] :: outer

/-- Nothing that a script says breaks its run down, but for a tap of three fingers that the device has
to compose and for which there is no room. -/
theorem failures_contained (hreturns : d.Returns) (composes : Bool) :
    Endures settings (d.composing composes) commands device cancelled composes where
  crashed := crashed_iff_dispatches hreturns composes
  unharmed := by
    intro hroom k o hcrashed
    obtain ⟨_, j, line, p, _, hdispatch, hfingers⟩ := (crashed_iff_dispatches hreturns composes k o).mp hcrashed
    have hmem := Course.Dispatches.mem_allOf hdispatch
    exact (Point.hasRoom_iff p).mp (hroom line p hmem) o hfingers
  errors n command hdispatch k hlt hnone := hdispatch.errors_eq hlt hnone
  ends := by
    intro n hnone
    obtain ⟨k, hover⟩ | hcaught := over_or_caught hnone
    · cases hstatus : (reached settings (d.composing composes) commands device cancelled k).status with
      | running => exact absurd hstatus hover
      | finished => exact .inl ⟨k, hstatus⟩
      | crashed o => exact .inr (.inl ⟨k, o, hstatus⟩)
    · exact .inr (.inr hcaught)

/-- A tap of three fingers in the middle of the plane, and one at its right end. -/
def tapsAtEnd : List Command :=
  [.leaf 1 (.gesture (.threeFingerTap ⟨⟨540, by decide, by decide⟩, ⟨960, by decide, by decide⟩⟩)),
    .leaf 2 (.gesture (.threeFingerTap ⟨⟨2147483640, by decide, by decide⟩, ⟨1200, by decide, by decide⟩⟩)),
    .leaf 3 (.logVariable "x")]

/-- A device that knows the tap of three fingers gets to the end of the script. One that composes it
gets to the second tap, and that is a tap without room. -/
theorem tapsAtEnd_break_down :
    let own := reached Settings.default (silentDevice.composing false) tapsAtEnd () false
    let composed := reached Settings.default (silentDevice.composing true) tapsAtEnd () false
    silentDevice.Returns ∧ (own 20).status = .finished ∧ (∀ k o, (own k).status ≠ .crashed o) ∧
      (composed 20).status = .crashed .addition ∧ (composed 20).report.steps = 2 ∧
      ∃ line p, .leaf line (.gesture (.threeFingerTap p)) ∈ Command.allOf tapsAtEnd ∧ ¬ p.HasRoom := by
  intro own composed
  have hreturns : silentDevice.Returns := ⟨by simp [silentDevice], by simp [silentDevice]⟩
  have hfinished : (own 20).status = .finished := by decide
  have hcrashed : (composed 20).status = .crashed .addition := by decide
  have hsteps : (composed 20).report.steps = 2 := by decide
  have hown := failures_contained Settings.default silentDevice tapsAtEnd () false hreturns false
  have hcomposed := failures_contained Settings.default silentDevice tapsAtEnd () false hreturns true
  refine ⟨hreturns, hfinished, fun k o hbroken => ?_, hcrashed, hsteps, ?_⟩
  · cases ((hown.crashed k o).mp hbroken).1
  · obtain ⟨_, j, line, p, _, hdispatch, hfingers⟩ := (hcomposed.crashed 20 .addition).mp hcrashed
    refine ⟨line, p, Course.Dispatches.mem_allOf hdispatch, fun hroom => ?_⟩
    exact (Point.hasRoom_iff p).mp hroom .addition hfingers

/-- A source of a single line, with no mistake in it, whose run breaks down: with a device whose own
calls all come back, and in a rehearsal. -/
theorem edgeTap_breaks_down :
    let script := Script.parse false "threefingertap 2147483647 0"
    let rehearsal := { Rehearsal.plain (.new [] [] false) with composesThreeFingers := true }
    script.errors = [] ∧ silentDevice.Returns ∧
      (reached Settings.default (silentDevice.composing true) script.commands () false 3).status =
        .crashed .addition ∧
      (reached Settings.default Rehearsal.device script.commands rehearsal false 3).status =
        .crashed .addition := by
  intro script rehearsal
  have hscript : script = ⟨[.leaf 1 (.gesture (.threeFingerTap
    ⟨⟨2147483647, by decide, by decide⟩, ⟨0, by decide, by decide⟩⟩))], []⟩ := by rfl
  rw [hscript]
  exact ⟨rfl, ⟨by simp [silentDevice], by simp [silentDevice]⟩, by decide, by decide⟩

end Run

end TouchScript
