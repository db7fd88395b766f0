import TouchScript.Arith
import TouchScript.Gesture

namespace TouchScript

/-- What `set` writes: a single token, or an operation on two. -/
inductive SetSource where
  | literal (token : String)
  | binary (lhs : String) (op : Operator) (rhs : String)
deriving DecidableEq

/-- A template search: the image, and the variables for its position and confidence. -/
structure ImageLookup where
  path : String
  xVar : String
  yVar : String
  confidenceVar : Option String
deriving DecidableEq

inductive Instruction where
  | gesture (g : Gesture Number)
  | delay (ms : Number)
  | stop
  | set (name : String) (source : SetSource)
  | get (name : String)
  | label (name : String)
  | goto (label : String)
  | gotoIf (condition : String) (label : String)
  | log (message : String)
  | overlay (message : String)
  | logVariable (name : String)
  | find (lookup : ImageLookup)
  | call (name : String)
deriving DecidableEq

/-- A command of a script, with the line it was written on: a single instruction, or a block with
one or two sequences of its own. -/
inductive Command where
  | leaf (line : Nat) (instruction : Instruction)
  | branch (line : Nat) (condition : String) (thenBlock elseBlock : List Command)
  | loop (line : Nat) (condition : String) (body : List Command)
  | counted (line : Nat) (count : PassCount) (counter : Option String) (body : List Command)
  | function (line : Nat) (name : String) (body : List Command)

/-- The keyword a gesture is written with. -/
def Gesture.keyword {δ : Type} : Gesture δ → String
  | .tap _ => "click"
  | .threeFingerTap _ => "threefingertap"
  | .longPress _ _ => "longpress"
  | .swipe _ _ _ => "swipe"
  | .zoom _ _ _ .inward => "zoomin"
  | .zoom _ _ _ .outward => "zoomout"
  | .multiTap _ => "multitap"
  | .path _ _ => "swipepath"

def Instruction.keyword : Instruction → String
  | .gesture g => g.keyword
  | .delay _ => "delay"
  | .stop => "stop"
  | .set _ _ => "set"
  | .get _ => "get"
  | .label _ => "label"
  | .goto _ => "goto"
  | .gotoIf _ _ => "gotoif"
  | .log _ => "log"
  | .overlay _ => "logs"
  | .logVariable _ => "logvar"
  | .find _ => "findimageposition"
  | .call _ => "call"

namespace Command

def line : Command → Nat
  | .leaf n _ | .branch n _ _ _ | .loop n _ _ | .counted n _ _ _ | .function n _ _ => n

def keyword : Command → String
  | .leaf _ instruction => instruction.keyword
  | .branch _ _ _ _ => "if"
  | .loop _ _ _ => "while"
  | .counted _ _ _ _ => "repeat"
  | .function _ _ _ => "fun"

/-- The name of a label command. -/
def label? : Command → Option String
  | .leaf _ (.label name) => some name
  | _ => none

end Command

end TouchScript
