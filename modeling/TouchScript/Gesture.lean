import TouchScript.Geometry

namespace TouchScript

/-- A gesture whose duration, where it has one, is a `δ`: a script writes signed numbers, a device
receives times that are never negative. -/
inductive Gesture (δ : Type) where
  | tap (point : Point)
  | threeFingerTap (point : Point)
  | longPress (point : Point) (duration : δ)
  | swipe (start stop : Point) (duration : δ)
  | zoom (center : Point) (distance : Coordinate) (duration : δ) (direction : Direction)
  | multiTap (points : List Point)
  | path (points : List Point) (duration : δ)
deriving DecidableEq

namespace Gesture

variable {δ ε : Type}

/-- The same gesture with another duration. -/
def map (f : δ → ε) : Gesture δ → Gesture ε
  | .tap p => .tap p
  | .threeFingerTap p => .threeFingerTap p
  | .longPress p d => .longPress p (f d)
  | .swipe p q d => .swipe p q (f d)
  | .zoom p distance d direction => .zoom p distance (f d) direction
  | .multiTap points => .multiTap points
  | .path points d => .path points (f d)

/-- The points a gesture is written with, in order. -/
def points : Gesture δ → List Point
  | .tap p | .threeFingerTap p | .longPress p _ | .zoom p _ _ _ => [p]
  | .swipe p q _ => [p, q]
  | .multiTap points | .path points _ => points

def duration? : Gesture δ → Option δ
  | .longPress _ d | .swipe _ _ d | .zoom _ _ d _ | .path _ d => some d
  | .tap _ | .threeFingerTap _ | .multiTap _ => none

def distance? : Gesture δ → Option Coordinate
  | .zoom _ distance _ _ => some distance
  | _ => none

end Gesture

end TouchScript
