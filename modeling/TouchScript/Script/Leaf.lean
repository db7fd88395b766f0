import TouchScript.Command
import TouchScript.Script.Fault
import TouchScript.Text.Blank

namespace TouchScript

/-- The keywords of instructions. -/
inductive LeafWord where
  | click
  | threeFingerTap
  | longPress
  | swipe
  | zoomIn
  | zoomOut
  | multiTap
  | swipePath
  | delay
  | stop
  | set
  | get
  | label
  | goto
  | gotoIf
  | log
  | logs
  | logVar
  | find
  | call
deriving DecidableEq

namespace LeafWord

def all : List LeafWord :=
  [click, threeFingerTap, longPress, swipe, zoomIn, zoomOut, multiTap, swipePath, delay, stop, set,
    get, label, goto, gotoIf, log, logs, logVar, find, call]

def name : LeafWord → String
  | .click => "click"
  | .threeFingerTap => "threefingertap"
  | .longPress => "longpress"
  | .swipe => "swipe"
  | .zoomIn => "zoomin"
  | .zoomOut => "zoomout"
  | .multiTap => "multitap"
  | .swipePath => "swipepath"
  | .delay => "delay"
  | .stop => "stop"
  | .set => "set"
  | .get => "get"
  | .label => "label"
  | .goto => "goto"
  | .gotoIf => "gotoif"
  | .log => "log"
  | .logs => "logs"
  | .logVar => "logvar"
  | .find => "findimageposition"
  | .call => "call"

/-- The keyword a lower-case word stands for. -/
def ofName? (s : String) : Option LeafWord :=
  all.find? fun word => word.name == s

/-- What a keyword wants after it, in the words of its error message. -/
def expected : LeafWord → String
  | .click | .threeFingerTap => "2 arguments (x y)"
  | .longPress => "3 arguments (x y duration)"
  | .swipe => "5 arguments (x0 y0 x1 y1 duration)"
  | .zoomIn | .zoomOut => "4 arguments (x y distance duration)"
  | .multiTap => "one or more x y pairs"
  | .swipePath => "a duration followed by two or more x y pairs"
  | .delay => "1 argument (ms)"
  | .stop => "no arguments"
  | .set => "2 arguments (name value) or 4 (name a op b)"
  | .get | .label | .logVar | .call => "1 argument (name)"
  | .goto => "1 argument (label)"
  | .gotoIf => "a condition and a label"
  | .log | .logs => "a message"
  | .find => "3 or 4 arguments (path xVar yVar [confidenceVar])"

end LeafWord

namespace Instruction

/-- Reads a signed integer for the field named in the fault. -/
def readInt {lo hi : Int} (field value : String) : Except Fault (Ranged lo hi) :=
  match Text.signed? value with
  | some n => .ok n
  | none => .error (.invalidInteger field value)

def readPoint (x y : String) : Except Fault Point := do
  let x ← readInt "x coordinate" x
  let y ← readInt "y coordinate" y
  return ⟨x, y⟩

/-- Reads the points of a list of coordinates; none if a coordinate has no partner. -/
def readPoints : List String → Option (Except Fault (List Point))
  | [] => some (.ok [])
  | [_] => none
  | x :: y :: rest => (readPoints rest).map fun points => do
    let p ← readPoint x y
    return p :: (← points)

def arityFault (word : LeafWord) (args : List String) : Fault :=
  .arity word.name (LeafWord.expected word) args.length

/-- The instruction of a keyword and the words after it. Every keyword states how many words it
wants; numbers are read in the order in which they are written, and the first that is no number in
range is the fault of the line. -/
def ofWords (word : LeafWord) (args : List String) : Except Fault Instruction :=
  let wrong : Except Fault Instruction := .error (arityFault word args)
  match word with
  | .click =>
    match args with
    | [x, y] => do return .gesture (.tap (← readPoint x y))
    | _ => wrong
  | .threeFingerTap =>
    match args with
    | [x, y] => do return .gesture (.threeFingerTap (← readPoint x y))
    | _ => wrong
  | .longPress =>
    match args with
    | [x, y, d] => do
      let p ← readPoint x y
      return .gesture (.longPress p (← readInt "duration" d))
    | _ => wrong
  | .swipe =>
    match args with
    | [x, y, u, v, d] => do
      let p ← readPoint x y
      let q ← readPoint u v
      return .gesture (.swipe p q (← readInt "duration" d))
    | _ => wrong
  | .zoomIn => zoom .inward wrong args
  | .zoomOut => zoom .outward wrong args
  | .multiTap =>
    match args with
    | [] => wrong
    | _ :: _ =>
      match readPoints args with
      | some points => do return .gesture (.multiTap (← points))
      | none => wrong
  | .swipePath =>
    match args with
    | d :: x :: y :: u :: v :: more =>
      match readPoints (x :: y :: u :: v :: more) with
      | some points => do
        let d ← readInt "duration" d
        return .gesture (.path (← points) d)
      | none => wrong
    | _ => wrong
  | .delay =>
    match args with
    | [ms] => do return .delay (← readInt "delay" ms)
    | _ => wrong
  | .stop =>
    match args with
    | [] => .ok .stop
    | _ => wrong
  | .set =>
    match args with
    | [name, token] => .ok (.set name (.literal token))
    | [name, lhs, symbol, rhs] =>
      match Operator.ofSymbol? symbol with
      | some op => .ok (.set name (.binary lhs op rhs))
      | none => .error (.unknownOperator symbol)
    | _ => wrong
  | .get =>
    match args with
    | [name] => .ok (.get name)
    | _ => wrong
  | .label =>
    match args with
    | [name] => .ok (.label name)
    | _ => wrong
  | .goto =>
    match args with
    | [name] => .ok (.goto name)
    | _ => wrong
  | .gotoIf =>
    match args.getLast?, args.dropLast with
    | some name, first :: others => .ok (.gotoIf (Text.join " " (first :: others)) name)
    | _, _ => wrong
  | .log =>
    match args with
    | [] => .error (.missingArgument word.name)
    | first :: others => .ok (.log (Text.join " " (first :: others)))
  | .logs =>
    match args with
    | [] => .error (.missingArgument word.name)
    | first :: others => .ok (.overlay (Text.join " " (first :: others)))
  | .logVar =>
    match args with
    | [name] => .ok (.logVariable name)
    | _ => wrong
  | .find =>
    match args with
    | [path, x, y] => .ok (.find ⟨path, x, y, none⟩)
    | [path, x, y, confidence] => .ok (.find ⟨path, x, y, some confidence⟩)
    | _ => wrong
  | .call =>
    match args with
    | [name] => .ok (.call name)
    | _ => wrong
where
  /-- A zoom in the given direction. -/
  zoom (direction : Direction) (wrong : Except Fault Instruction) (args : List String) :
      Except Fault Instruction :=
    match args with
    | [x, y, distance, d] => do
      let p ← readPoint x y
      let distance ← readInt "distance" distance
      return .gesture (.zoom p distance (← readInt "duration" d) direction)
    | _ => wrong

/-- The instruction of a leaf line with the given keyword in lower case. -/
def read (keyword : String) (args : List String) : Except Fault Instruction :=
  match LeafWord.ofName? keyword with
  | some word => ofWords word args
  | none => .error (.unknownCommand keyword)

end Instruction

end TouchScript
