import TouchScript.Command

namespace TouchScript

/-- What is suspicious about a command that is well formed. -/
inductive Concern where
  | offScreen (point : Point)
  | shortDistance (keyword : String) (distance : Coordinate)
  | shortDuration (keyword : String) (duration : Number)
  | negativeDelay (ms : Number)
  | repeatedLabel (name : String)
  | neverRuns
deriving DecidableEq

def Concern.message : Concern → String
  | .offScreen point => s!"coordinate {point.text} is off screen"
  | .shortDistance keyword distance =>
    s!"{keyword}: distance {Text.ofInt distance.val} is not positive"
  | .shortDuration keyword duration =>
    s!"{keyword}: duration {Text.ofInt duration.val} ms is not positive"
  | .negativeDelay ms =>
    s!"delay: {Text.ofInt ms.val} ms is negative and will be treated as 0"
  | .repeatedLabel name => s!"label '{name}' is defined more than once in this block"
  | .neverRuns => "repeat 0: the body never runs"

/-- A concern with the line of its command. -/
structure Warning where
  line : Nat
  concern : Concern
deriving DecidableEq

def Warning.text (w : Warning) : String :=
  s!"line {w.line}: {w.concern.message}"

def Point.isOffScreen (p : Point) : Bool :=
  decide (p.x.val < 0) || decide (p.y.val < 0)

/-- The concerns of a gesture: its points in order, then its distance, then its duration. -/
def Gesture.concerns (g : Gesture Number) : List Concern :=
  let distances := g.distance?.toList.filter fun d => decide (d.val ≤ 0)
  let durations := g.duration?.toList.filter fun d => decide (d.val ≤ 0)
  (g.points.filter Point.isOffScreen).map Concern.offScreen ++
    distances.map (Concern.shortDistance g.keyword) ++
    durations.map (Concern.shortDuration g.keyword)

/-- The concerns of a command on its own, where `seen` are the labels before it in its sequence. -/
def Command.concerns (seen : List String) : Command → List Concern
  | .leaf _ (.gesture g) => g.concerns
  | .leaf _ (.delay ms) => if ms.val < 0 then [.negativeDelay ms] else []
  | .leaf _ (.label name) => if name ∈ seen then [.repeatedLabel name] else []
  | .counted _ count _ _ => if count.val = 0 then [.neverRuns] else []
  | _ => []

mutual

/-- The warnings of a command and of the blocks in it. -/
def Command.warnings (seen : List String) : Command → List Warning
  | .leaf line instruction =>
    (Command.concerns seen (.leaf line instruction)).map (Warning.mk line)
  | .branch _ _ thenBlock elseBlock => warningsOf [] thenBlock ++ warningsOf [] elseBlock
  | .loop _ _ body => warningsOf [] body
  | .counted line count counter body =>
    (Command.concerns seen (.counted line count counter [])).map (Warning.mk line) ++
      warningsOf [] body
  | .function _ _ body => warningsOf [] body

/-- The warnings of a sequence whose earlier labels are `seen`. -/
def warningsOf (seen : List String) : List Command → List Warning
  | [] => []
  | command :: rest =>
    Command.warnings seen command ++ warningsOf (command.label?.toList ++ seen) rest

end

/-- The warnings of a script, in the order in which its commands are written, blocks that never run
included. -/
def warnings (commands : List Command) : List Warning :=
  warningsOf [] commands

end TouchScript
