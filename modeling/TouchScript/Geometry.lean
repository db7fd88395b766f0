import TouchScript.Text.Decimal

namespace TouchScript

/-- A position on the screen. -/
structure Point where
  x : Coordinate
  y : Coordinate
deriving DecidableEq

inductive Direction where
  | inward
  | outward
deriving DecidableEq

/-- A coordinate that would leave its range, by the step that computes it. -/
inductive Overflow where
  | subtraction
  | addition
deriving DecidableEq

def Overflow.message : Overflow → String
  | .subtraction => "attempt to subtract with overflow"
  | .addition => "attempt to add with overflow"

namespace Point

def text (p : Point) : String :=
  s!"({Text.ofInt p.x.val}, {Text.ofInt p.y.val})"

def left (p : Point) (d : Coordinate) : Except Overflow Point :=
  match Ranged.ofInt? (p.x.val - d.val) with
  | some x => .ok { p with x }
  | none => .error .subtraction

def right (p : Point) (d : Coordinate) : Except Overflow Point :=
  match Ranged.ofInt? (p.x.val + d.val) with
  | some x => .ok { p with x }
  | none => .error .addition

/-- The distance between two neighbouring fingers. -/
def fingerGap : Coordinate := ⟨20, by decide, by decide⟩

/-- Three fingers side by side, the middle one at the point. The left point is looked at before the
right one, and without both there is no gesture. -/
def threeFingers (p : Point) : Except Overflow (List Point) := do
  let l ← p.left fingerGap
  let r ← p.right fingerGap
  return [l, p, r]

/-- The strokes of the two fingers of a zoom around a point, each as its start and its end: inward
from the center to the outer points, outward the same strokes reversed. -/
def zoomStrokes (center : Point) (distance : Coordinate) (direction : Direction) :
    Except Overflow (List (Point × Point)) := do
  let l ← center.left distance
  let r ← center.right distance
  match direction with
  | .inward => return [(center, l), (center, r)]
  | .outward => return [(l, center), (r, center)]

end Point

end TouchScript
