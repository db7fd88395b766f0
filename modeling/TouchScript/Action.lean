import TouchScript.Gesture
import TouchScript.Image
import TouchScript.Text.Blank

namespace TouchScript

/-- A line for the log, where an overlay stays for a `δ`. -/
inductive LogCall (δ : Type) where
  | message (text : String)
  | namedValue (name value : String)
  | overlay (text : String) (duration : δ)
deriving DecidableEq

/-- The same line with another duration. -/
def LogCall.map {δ ε : Type} (f : δ → ε) : LogCall δ → LogCall ε
  | .message text => .message text
  | .namedValue name value => .namedValue name value
  | .overlay text d => .overlay text (f d)

/-- A call that was made on a device, as it is recorded: with what was passed along, and a search
with its answer. -/
inductive Action where
  | gesture (g : Gesture Millis)
  | message (text : String)
  | namedValue (name value : String)
  | overlay (text : String) (duration : Millis)
  | find (path : String) (matched : ImageMatch)
deriving DecidableEq

/-- What became of a call. -/
inductive ActionResult where
  | success
  | failure (message : String)
deriving DecidableEq

namespace Direction

def text : Direction → String
  | .inward => "In"
  | .outward => "Out"

end Direction

namespace Gesture

def name {δ : Type} : Gesture δ → String
  | .tap _ => "tap"
  | .longPress _ _ => "long_press"
  | .swipe _ _ _ => "swipe"
  | .threeFingerTap _ => "three_finger_tap"
  | .zoom _ _ _ _ => "zoom"
  | .multiTap _ => "multi_tap"
  | .path _ _ => "continuous_swipe"

def arguments : Gesture Millis → String
  | .tap p | .threeFingerTap p => p.text
  | .longPress p d => s!"{p.text} {Text.ofInt d.val}ms"
  | .swipe p q d => s!"{p.text} -> {q.text} {Text.ofInt d.val}ms"
  | .zoom p distance d direction =>
    s!"{direction.text} {p.text} by {Text.ofInt distance.val} {Text.ofInt d.val}ms"
  | .multiTap points => Text.join " " (points.map Point.text)
  | .path points d =>
    let stops := Text.join " " (points.map Point.text)
    s!"{stops} {Text.ofInt d.val}ms"

end Gesture

namespace Action

def ofLogCall : LogCall Millis → Action
  | .message text => .message text
  | .namedValue name value => .namedValue name value
  | .overlay text duration => .overlay text duration

def name : Action → String
  | .gesture g => g.name
  | .message _ => "log_message"
  | .namedValue _ _ => "log_variable"
  | .overlay _ _ => "overlay"
  | .find _ _ => "find_template"

def isGesture : Action → Bool
  | .gesture _ => true
  | _ => false

/-- The arguments of a call as text. -/
def arguments : Action → String
  | .gesture g => g.arguments
  | .message text => text
  | .namedValue name value => s!"{name} = {value}"
  | .overlay text d => s!"{text} ({Text.ofInt d.val}ms)"
  | .find path m =>
    if m.found then
      s!"{path} found at {(Point.mk m.x m.y).text} confidence {m.confidence.text}"
    else s!"{path} not found"

def text (a : Action) : String :=
  s!"{a.name} {a.arguments}"

end Action

/-- A recorded call with its result. -/
structure Entry where
  action : Action
  result : ActionResult
deriving DecidableEq

/-- The call on one line, with the reason if it failed. -/
def Entry.text (e : Entry) : String :=
  match e.result with
  | .success => e.action.text
  | .failure message => s!"{e.action.text} [failed: {message}]"

end TouchScript
