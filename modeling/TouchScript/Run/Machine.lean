import TouchScript.Run.Event

namespace TouchScript

/-- What a finished command tells the sequence it stands in. -/
inductive Flow where
  | next
  | jump (target : LabelTarget)
  | halt
deriving DecidableEq

/-- Something a run is in the middle of: a sequence, the loop around it, or the call it belongs to. -/
inductive Frame where
  /-- A sequence, its scope and the place of its current command. -/
  | sequence (scope : Nat) (commands : List Command) (index : Nat)
  /-- A loop that goes on while its condition holds. -/
  | loop (condition : String) (body : List Command)
  /-- A loop that has begun `passes` of its `count` passes. -/
  | counted (count passes : Nat) (counter : Option String) (body : List Command)
  /-- A function call and the floor of the labels before it. -/
  | call (floor : Nat)

/-- What the machine does next. Where it needs its surroundings it says what it waits for. -/
inductive Control where
  /-- Looks at the current command of the innermost sequence. -/
  | fetch
  /-- Looks whether the innermost loop goes on. -/
  | again
  /-- Hands a flow to the innermost frame; without frames the run is over. -/
  | leave (flow : Flow)
  /-- Waits for a gesture to be carried out. -/
  | perform (line : Nat) (g : Gesture Millis)
  /-- Waits for an image to be searched. -/
  | search (line : Nat) (lookup : ImageLookup)
  /-- Waits for a line to be logged. -/
  | tell (call : LogCall Millis)
  /-- Waits for time to pass before the next command. -/
  | pause (duration : Millis)
  /-- Lets others go first between two passes of a loop. -/
  | yield

/-- The state of a run: a stack of frames and what is done next. It moves in small steps, so that a
run can be suspended at every pause, be cancelled from outside at any moment, and be watched while
it goes on for ever. -/
structure Machine where
  context : Context
  frames : List Frame
  control : Control
  callDepth : Nat
  /-- The number of commands dispatched. -/
  steps : Nat
  /-- Whether the script itself has ended the run. -/
  stopped : Bool
  errors : Array RunError
  events : Array Event

namespace Machine

def note (m : Machine) (e : Event) : Machine :=
  { m with events := m.events.push e }

def fail (m : Machine) (e : RunError) : Machine :=
  let m := m.note (.failed e)
  { m with errors := m.errors.push e }

def goOn (m : Machine) (control : Control) : Machine :=
  { m with control }

/-- Ends the current command and goes to the next one. -/
def next (m : Machine) : Machine :=
  m.goOn (.leave .next)

def withContext (m : Machine) (context : Context) : Machine :=
  { m with context }

def withLabels (m : Machine) (labels : LabelScopes) : Machine :=
  { m with context := { m.context with labels } }

/-- The labels that are known when a sequence is entered. -/
def initialLabels (settings : Settings) (commands : List Command) : LabelTable :=
  match settings.labelResolution with
  | .eager => collectLabels commands
  | .lazy => []

/-- Enters a sequence at its first command. -/
def enter (settings : Settings) (m : Machine) (commands : List Command) : Machine :=
  let scopes := m.context.labels
  { m.withLabels (scopes.push (initialLabels settings commands)) with
    frames := .sequence scopes.depth commands 0 :: m.frames
    control := .fetch }

def start (settings : Settings) (commands : List Command) : Machine :=
  enter settings ⟨Context.empty, [], .fetch, 0, 0, false, #[], #[]⟩ commands

/-- Leaves the innermost sequence, whose other frames are `outer`. -/
def exitSequence (m : Machine) (outer : List Frame) (flow : Flow) : Machine :=
  { m.withLabels m.context.labels.pop with frames := outer, control := .leave flow }

def exitLoop (m : Machine) (outer : List Frame) (flow : Flow) : Machine :=
  { m with frames := outer, control := .leave flow }

/-- Leaves a function. A jump never leads out of it. -/
def exitCall (m : Machine) (outer : List Frame) (floor : Nat) (flow : Flow) : Machine :=
  { m.withLabels (m.context.labels.exitCall floor) with
    frames := outer
    callDepth := m.callDepth - 1
    control := .leave (match flow with
      | .halt => .halt
      | _ => .next) }

def test (m : Machine) (condition : String) : Bool × Machine :=
  match Condition.decide? m.context condition with
  | .ok b => (b, m)
  | .error e => (false, m.note (.malformedCondition condition e))

def jump (m : Machine) (line : Nat) (label : String) : Machine :=
  match m.context.labels.resolve label with
  | some target => (m.note (.jumped line label target)).goOn (.leave (.jump target))
  | none => (m.fail (.labelNotFound line label)).next

def call (settings : Settings) (m : Machine) (line : Nat) (name : String) : Machine :=
  match m.context.functions.get? name with
  | none => (m.fail (.functionNotFound line name)).next
  | some body =>
    if settings.maxCallDepth.val ≤ m.callDepth then
      (m.fail (.callDepthExceeded line name settings.maxCallDepth)).next
    else
      let scopes := m.context.labels
      let inside : Machine :=
        { m.withLabels scopes.enterCall with
          frames := .call scopes.floor :: m.frames
          callDepth := m.callDepth + 1 }
      enter settings inside body

/-- Writes a variable, or notes that the value cannot be computed. -/
def assign (settings : Settings) (m : Machine) (line : Nat) (name : String)
    (source : SetSource) : Machine :=
  match source with
  | .literal token => m.withContext (m.context.setVariable name (m.context.resolve token))
  | .binary lhs op rhs =>
    if settings.setArithmetic then
      let left := (m.context.resolve lhs).toNumber
      let right := (m.context.resolve rhs).toNumber
      match op.compute? left right with
      | some n => m.withContext (m.context.setVariable name (.number n))
      | none => m.fail (.arithmetic line left op right)
    else
      let text := s!"{lhs} {op.symbol} {rhs}"
      m.withContext (m.context.setVariable name (.text text))

/-- The text a `logvar` shows. -/
def shownValue (m : Machine) (name : String) : String :=
  match m.context.values.get? name with
  | some value => value.toText
  | none => "0"

/-- Carries out an instruction that stands at `index` of its sequence, up to the point where it
needs the surroundings. -/
def execute (settings : Settings) (m : Machine) (line index : Nat) : Instruction → Machine
  | .gesture g => m.goOn (.perform line (g.map Number.toMillis))
  | .delay ms => m.goOn (.pause ms.toMillis)
  | .stop => { (m.note (.stopRequested line)).goOn (.leave .halt) with stopped := true }
  | .set name source => (m.assign settings line name source).next
  | .get name =>
    match m.context.values.get? name with
    | some value => (m.note (.read line name value)).next
    | none => (m.note (.readUnset line name)).next
  | .label name =>
    match settings.labelResolution with
    | .eager => m.next
    | .lazy => (m.withLabels (m.context.labels.register name index)).next
  | .goto label => m.jump line label
  | .gotoIf condition label =>
    let (holds, m) := m.test condition
    if holds then m.jump line label else m.next
  | .log message => m.goOn (.tell (.message (m.context.interpolate message)))
  | .overlay message =>
    m.goOn (.tell (.overlay (m.context.interpolate message) settings.overlayDuration))
  | .logVariable name => m.goOn (.tell (.namedValue name (m.shownValue name)))
  | .find lookup => m.goOn (.search line lookup)
  | .call name => m.call settings line name

/-- Dispatches the command that stands at `index` of its sequence. -/
def dispatch (settings : Settings) (m : Machine) (index : Nat) (command : Command) : Machine :=
  let m := m.note (.dispatched command.line command.keyword)
  let m := { m with steps := m.steps + 1 }
  match command with
  | .leaf line instruction => m.execute settings line index instruction
  | .branch _ condition thenBlock elseBlock =>
    let (holds, m) := m.test condition
    m.enter settings (if holds then thenBlock else elseBlock)
  | .loop _ condition body =>
    { m with frames := .loop condition body :: m.frames, control := .again }
  | .counted _ count counter body =>
    { m with frames := .counted count.val.toNat 0 counter body :: m.frames, control := .again }
  | .function _ name body => (m.withContext (m.context.define name body)).next

/-- Whether the run has to end before its next command. -/
def isHalted (m : Machine) (cancelled : Bool) : Bool :=
  cancelled || m.stopped

/-- Looks at the current command of the innermost sequence. -/
def fetch (settings : Settings) (cancelled : Bool) (m : Machine) : Machine :=
  match m.frames with
  | .sequence _ commands index :: outer =>
    if m.isHalted cancelled then m.exitSequence outer .halt
    else
      match commands[index]? with
      | some command => m.dispatch settings index command
      | none => m.exitSequence outer .next
  | _ => m.goOn (.leave .halt)

/-- The number of a pass, which is what its counter shows. -/
def passNumber (n : Nat) : Number :=
  (Ranged.ofInt? n).getD Number.zero

/-- Looks whether the innermost loop goes on. -/
def again (settings : Settings) (cancelled : Bool) (m : Machine) : Machine :=
  match m.frames with
  | .loop condition body :: outer =>
    if m.isHalted cancelled then m.exitLoop outer .halt
    else
      let (holds, m) := m.test condition
      if holds then m.enter settings body else m.exitLoop outer .next
  | .counted count passes counter body :: outer =>
    if count ≤ passes then m.exitLoop outer .next
    else if m.isHalted cancelled then m.exitLoop outer .halt
    else
      let context :=
        match counter with
        | some name => m.context.setCounter name (passNumber (passes + 1))
        | none => m.context
      enter settings
        { m with context, frames := .counted count (passes + 1) counter body :: outer } body
  | _ => m.goOn (.leave .halt)

/-- Hands a flow to the innermost frame. A sequence follows a jump to its own scope; everything else
that is not `next` leaves the frame. -/
def leave (m : Machine) (flow : Flow) : Machine :=
  match m.frames with
  | [] => m
  | .sequence scope commands index :: outer =>
    match flow with
    | .next => { m with frames := .sequence scope commands (index + 1) :: outer, control := .fetch }
    | .jump target =>
      if target.scope = scope then
        { m with frames := .sequence scope commands target.index :: outer, control := .fetch }
      else m.exitSequence outer flow
    | .halt => m.exitSequence outer flow
  | .loop _ _ :: outer =>
    match flow with
    | .next => m.goOn .yield
    | _ => m.exitLoop outer flow
  | .counted _ _ _ _ :: outer =>
    match flow with
    | .next => m.goOn .again
    | _ => m.exitLoop outer flow
  | .call floor :: outer => m.exitCall outer floor flow

/-- Goes on after a gesture: a failure is noted, and either way the screen is left to settle. -/
def performed (settings : Settings) (m : Machine) (line : Nat) (g : Gesture Millis)
    (result : Except DeviceError Unit) : Machine :=
  let m :=
    match result with
    | .ok _ => m
    | .error e => m.fail (.device line g.keyword e)
  if settings.settleDelay.val = 0 then m.next else m.goOn (.pause settings.settleDelay)

/-- Goes on after an image search. An image that was not found, and a search that failed, write the
same values. -/
def searched (m : Machine) (line : Nat) (lookup : ImageLookup)
    (result : Except DeviceError ImageMatch) : Machine :=
  let (answer, m) :=
    match result with
    | .ok answer => (if answer.found then answer else ImageMatch.notFound, m)
    | .error e =>
      (ImageMatch.notFound, m.fail (.device line (Instruction.find lookup).keyword e))
  let m := m.note (.searched line lookup.path answer.found)
  let context :=
    (m.context.setVariable lookup.xVar (.number answer.x.toNumber)).setVariable lookup.yVar
      (.number answer.y.toNumber)
  let context :=
    match lookup.confidenceVar with
    | some name => context.setVariable name (.text answer.confidence.textWithPoint)
    | none => context
  (m.withContext context).next

def isFinished (m : Machine) : Bool :=
  match m.frames, m.control with
  | [], .leave _ => true
  | _, _ => false

end Machine

end TouchScript
