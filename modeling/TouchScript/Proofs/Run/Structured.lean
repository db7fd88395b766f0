import TouchScript.Proofs.Machine.Gesture
import TouchScript.Proofs.Machine.Parts
import TouchScript.Proofs.Run.Calls

namespace TouchScript

/-- Neither jumps to a label nor stands for a jump. -/
def Command.isStructured : Command → Bool
  | .leaf _ instruction => instruction.jumpLabel?.isNone
  | .branch _ _ _ _ | .loop _ _ _ | .counted _ _ _ _ | .function _ _ _ => true

/-- No command is a jump, the bodies of functions included. -/
abbrev JumpFree : List Command → Prop :=
  Everywhere Command.isStructured

/-- An integer within the bounds is in range. -/
theorem Ranged.exists_ofInt? {lo hi n : Int} (hlo : lo ≤ n) (hhi : n ≤ hi) :
    ∃ a : Ranged lo hi, ofInt? n = some a :=
  ⟨⟨n, hlo, hhi⟩, ofInt?_eq_some_iff.mpr rfl⟩

/-- The numbers of the passes of a counted loop, behind the first `passes` of them. -/
def passNumbers (passes count : Nat) : List Number :=
  (List.range' (passes + 1) (count - passes)).filterMap fun (n : Nat) => Ranged.ofInt? n

/-- When all passes have begun there are no more numbers. -/
theorem passNumbers_of_le {passes count : Nat} (hle : count ≤ passes) : passNumbers passes count = [] := by
  rw [passNumbers, Nat.sub_eq_zero_of_le hle]
  rfl

/-- No pass has a number that is out of range, as a loop has fewer than `2 ^ 32` passes. -/
theorem ofInt?_passNumber {n : Nat} (hle : (n : Int) ≤ 4294967295) :
    Ranged.ofInt? n = some (Machine.passNumber n) := by
  have hlo : -9223372036854775808 ≤ (n : Int) := by omega
  have hhi : (n : Int) ≤ 9223372036854775807 := by omega
  obtain ⟨a, ha⟩ := Ranged.exists_ofInt? hlo hhi
  rw [Machine.passNumber, ha, Option.getD_some]

/-- While there are passes left, the next has the next number. -/
theorem passNumbers_of_lt {passes count : Nat} (hless : passes < count)
    (hcount : (count : Int) ≤ 4294967295) :
    passNumbers passes count = Machine.passNumber (passes + 1) :: passNumbers (passes + 1) count := by
  have hsplit : count - passes = (count - (passes + 1)) + 1 := by omega
  have hnumber := ofInt?_passNumber (n := passes + 1) (by omega)
  rw [passNumbers, hsplit, List.range'_succ]
  exact List.filterMap_cons_some hnumber

/-- Behind the first `passes` of them, the passes of a counted loop are numbered on from there. -/
theorem map_val_passNumbers_of_le {count : Nat} (hcount : (count : Int) ≤ 4294967295) (passes : Nat) :
    (passNumbers passes count).map Ranged.val =
      (List.range' (passes + 1) (count - passes)).map fun (n : Nat) => (n : Int) := by
  generalize hleft : count - passes = left
  induction left generalizing passes with
  | zero => rw [passNumbers_of_le (Nat.le_of_sub_eq_zero hleft)]; rfl
  | succ left ih =>
    have hnumber := ofInt?_passNumber (n := passes + 1) (by omega)
    rw [passNumbers_of_lt (by omega) hcount, List.range'_succ, List.map_cons, List.map_cons,
      ih (passes + 1) (by omega), Ranged.ofInt?_eq_some_iff.mp hnumber]

/-- A counted loop numbers its passes from one on, and has as many as it is given. -/
theorem map_val_passNumbers (count : PassCount) :
    (passNumbers 0 count.val.toNat).map Ranged.val =
      (List.range' 1 count.val.toNat).map fun (n : Nat) => (n : Int) := by
  have hlo := count.lo_le
  have hhi := count.le_hi
  exact map_val_passNumbers_of_le (by omega) 0

/-- What a script without jumps can read and change: variables, counters and functions, what is
reported about it, the time that has passed, and the device with the calls it has received. There
are no frames and no labels. -/
structure World (σ : Type) where
  values : Bindings Value
  counters : Bindings Number
  functions : Bindings (List Command)
  steps : Nat
  errors : Array RunError
  elapsed : Nat
  device : σ
  calls : List DeviceCall

/-- How an evaluation ends. -/
inductive Ending where
  /-- Everything has been done. -/
  | done
  /-- The script has stopped itself. -/
  | stopped
  /-- A call has broken down. -/
  | crashed (o : Overflow)
  /-- There was more to do than the evaluation may go deep. -/
  | cut
deriving DecidableEq

/-- What a script without jumps comes to, in a meaning of its own that does not speak of frames, of
labels or of where a run stands. -/
abbrev Evaluation (σ : Type) := Ending × World σ

namespace Evaluation

variable {σ : Type}

/-- Goes on where everything before has been done. -/
def andThen (result : Evaluation σ) (next : World σ → Evaluation σ) : Evaluation σ :=
  match result with
  | (.done, w) => next w
  | (ending, w) => (ending, w)

@[simp]
theorem andThen_done (w : World σ) (next : World σ → Evaluation σ) : andThen (.done, w) next = next w := rfl

/-- To do nothing more changes nothing. -/
theorem andThen_eq_self (result : Evaluation σ) : result.andThen (.done, ·) = result := by
  obtain ⟨ending, w⟩ := result
  cases ending <;> rfl

/-- Does one thing after the other. -/
def inOrder {α : Type} (evaluate : α → World σ → Evaluation σ) : List α → World σ → Evaluation σ
  | [], w => (.done, w)
  | first :: rest, w => andThen (evaluate first w) (inOrder evaluate rest)

/-- Repeats a body for as long as a condition holds, at most a given number of times. -/
def whileTrue (holds : World σ → Bool) (body : World σ → Evaluation σ) : Nat → World σ → Evaluation σ
  | 0, w => (.cut, w)
  | passes + 1, w => if holds w then andThen (body w) (whileTrue holds body passes) else (.done, w)

end Evaluation

namespace World

variable {σ : Type}

def new (device : σ) : World σ :=
  ⟨[], [], [], 0, #[], 0, device, []⟩

/-- What conditions and messages are read in. There are no labels. -/
def context (w : World σ) : Context :=
  ⟨w.values, w.counters, w.functions, LabelScopes.empty⟩

def setVariable (w : World σ) (name : String) (value : Value) : World σ :=
  { w with values := w.values.set name value }

/-- Writes the counter of a loop, if it has one. -/
def setCounter (w : World σ) (counter : Option String) (n : Number) : World σ :=
  match counter with
  | some name => { w with counters := w.counters.set name n }
  | none => w

def counted (w : World σ) : World σ :=
  { w with steps := w.steps + 1 }

def fail (w : World σ) (e : RunError) : World σ :=
  { w with errors := w.errors.push e }

/-- Lets time pass. -/
def sleep (w : World σ) (ms : Nat) : World σ :=
  { w with elapsed := w.elapsed + Clock.sleepTime ms }

/-- Makes a call that has left the device in the state `device`. -/
def afterCall (w : World σ) (call : DeviceCall) (device : σ) : World σ :=
  { w with device, calls := w.calls ++ [call] }

/-- Goes on after a call when it has come back. -/
def answered {α : Type} (w : World σ) (answer : Answer α)
    (resume : Except DeviceError α → World σ → World σ) : Evaluation σ :=
  let slept := answer.sleep.elim w w.sleep
  match answer.reply with
  | .ok result => (.done, resume (.ok result) slept)
  | .error e => (.done, resume (.error e) slept)
  | .crash o => (.crashed o, w)

theorem le_lasting (n : Number) : 0 ≤ max 0 n.val :=
  Int.le_max_left 0 n.val

theorem lasting_le (n : Number) : max 0 n.val ≤ 18446744073709551615 := by
  have := n.le_hi
  omega

/-- The time that a script asks for with a number: that many milliseconds, and none if it is negative. -/
def lasting (n : Number) : Millis :=
  ⟨max 0 n.val, le_lasting n, lasting_le n⟩

theorem val_lasting (n : Number) : (lasting n).val = max 0 n.val := rfl

/-- The time asked for is the one that the machine sends out. -/
theorem lasting_eq_toMillis : lasting = Number.toMillis := rfl

/-- Makes the one call of a gesture and lets the screen settle. -/
def perform (settings : Settings) (d : Device σ) (line : Nat) (g : Gesture Number) (w : World σ) :
    Evaluation σ :=
  let gesture := g.map lasting
  let asked := d.perform w.device gesture
  let performed := (w.afterCall (.gesture gesture) asked.2).answered asked.1 fun result w =>
    match result with
    | .ok _ => w
    | .error e => w.fail (.device line g.keyword e)
  performed.andThen fun w => (.done, w.sleep settings.settleDelay.toNat)

/-- Writes where an image has been found. -/
def setMatch (w : World σ) (lookup : ImageLookup) (found : ImageMatch) : World σ :=
  let w := w.setVariable lookup.xVar (.number found.x.toNumber)
  let w := w.setVariable lookup.yVar (.number found.y.toNumber)
  match lookup.confidenceVar with
  | some name => w.setVariable name (.text found.confidence.textWithPoint)
  | none => w

/-- Searches an image and writes where it is. -/
def search (d : Device σ) (line : Nat) (lookup : ImageLookup) (w : World σ) : Evaluation σ :=
  let asked := d.search w.device lookup.path
  (w.afterCall (.search lookup.path) asked.2).answered asked.1 fun result w =>
    match result with
    | .ok found => w.setMatch lookup (if found.found then found else ImageMatch.notFound)
    | .error e =>
      (w.fail (.device line "findimageposition" e)).setMatch lookup ImageMatch.notFound

def tell (d : Device σ) (call : LogCall Millis) (w : World σ) : Evaluation σ :=
  (.done, w.afterCall (.tell call) (d.tell w.device call).2.2)

/-- Writes a variable, or notes that its value cannot be computed. -/
def assign (settings : Settings) (line : Nat) (name : String) (source : SetSource) (w : World σ) :
    World σ :=
  match source with
  | .literal token => w.setVariable name (w.context.resolve token)
  | .binary lhs op rhs =>
    if settings.setArithmetic then
      let left := (w.context.resolve lhs).toNumber
      let right := (w.context.resolve rhs).toNumber
      match op.compute? left right with
      | some n => w.setVariable name (.number n)
      | none => w.fail (.arithmetic line left op right)
    else w.setVariable name (.text s!"{lhs} {op.symbol} {rhs}")

/-- What a `logvar` shows. -/
def shown (w : World σ) (name : String) : String :=
  match w.values.get? name with
  | some value => value.toText
  | none => "0"

end World

namespace Evaluation

variable {σ : Type} (settings : Settings) (d : Device σ)

/-- The meaning of an instruction inside of `depth` calls, given the meaning of the body that it may
call. A jump has no meaning here. -/
def instruction (inner : Nat → List Command → World σ → Evaluation σ) (depth line : Nat) :
    Instruction → World σ → Evaluation σ
  | .gesture g, w => w.perform settings d line g
  | .delay ms, w => (.done, w.sleep (World.lasting ms).toNat)
  | .stop, w => (.stopped, w)
  | .set name source, w => (.done, w.assign settings line name source)
  | .get _, w | .label _, w | .goto _, w | .gotoIf _ _, w => (.done, w)
  | .log message, w => w.tell d (.message (w.context.interpolate message))
  | .overlay message, w =>
    w.tell d (.overlay (w.context.interpolate message) settings.overlayDuration)
  | .logVariable name, w => w.tell d (.namedValue name (w.shown name))
  | .find lookup, w => w.search d line lookup
  | .call name, w =>
    match w.functions.get? name with
    | none => (.done, w.fail (.functionNotFound line name))
    | some body =>
      if settings.maxCallDepth.val ≤ depth then
        (.done, w.fail (.callDepthExceeded line name settings.maxCallDepth))
      else inner (depth + 1) body w

/-- The meaning of a command, given the meaning of its blocks. -/
def command (fuel : Nat) (inner : Nat → List Command → World σ → Evaluation σ) (depth : Nat) :
    Command → World σ → Evaluation σ
  | .leaf line leaf, w => instruction settings d inner depth line leaf w.counted
  | .branch _ condition thenBlock elseBlock, w =>
    inner depth (if Condition.isTrue w.context condition then thenBlock else elseBlock) w.counted
  | .loop _ condition body, w =>
    whileTrue (fun w => Condition.isTrue w.context condition) (inner depth body) fuel w.counted
  | .counted _ count counter body, w =>
    inOrder (fun n w => inner depth body (w.setCounter counter n)) (passNumbers 0 count.val.toNat)
      w.counted
  | .function _ name body, w => (.done, { w.counted with functions := w.functions.set name body })

/-- The meaning of a sequence inside of `depth` calls: that of its commands, one after the other. As
a script need not end, it is cut where it goes deeper than `fuel`. -/
def sequence : Nat → Nat → List Command → World σ → Evaluation σ
  | 0, _, _, w => (.cut, w)
  | fuel + 1, depth, commands, w =>
    inOrder (command settings d fuel (sequence fuel) depth) commands w

end Evaluation

end TouchScript
