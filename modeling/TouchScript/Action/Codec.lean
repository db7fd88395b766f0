import TouchScript.Action
import TouchScript.Value

namespace TouchScript

namespace Point

def toJson (p : Point) : Json :=
  .record [("x", .ofInt p.x.val), ("y", .ofInt p.y.val)]

def ofJson? (value : Json) : Option Point :=
  match value.toRecord? ["x", "y"] with
  | some [some x, some y] => do return ⟨← x.toRanged?, ← y.toRanged?⟩
  | _ => none

def listOfJson? (value : Json) : Option (List Point) :=
  value.toItems?.bind fun items => items.mapM ofJson?

end Point

namespace Direction

/-- The direction in JSON. -/
def jsonName : Direction → String
  | .inward => "in"
  | .outward => "out"

/-- Reads a direction, whose content must be `isEmpty` if it is given as an object. -/
def ofChoice? (isEmpty : Json → Bool) (value : Json) : Option Direction :=
  match value.toChoice? with
  | some (name, content) =>
    if content.all isEmpty then [inward, outward].find? fun d => d.jsonName == name else none
  | none => none

def ofJson? : Json → Option Direction :=
  ofChoice? fun
    | .null => true
    | _ => false

/-- Reads the direction of an action, where an empty object counts as empty content too. -/
def ofActionJson? : Json → Option Direction :=
  ofChoice? fun
    | .null | .object [] => true
    | _ => false

end Direction

namespace Value

def toJson : Value → Json
  | .number n => .ofInt n.val
  | .text s => .string s

def ofJson? : Json → Option Value
  | .string s => some (.text s)
  | value => value.toRanged?.map .number

end Value

namespace ActionResult

def toJson : ActionResult → Json
  | .success => .string "Success"
  | .failure message => .record [("Failure", .string message)]

def ofJson? (value : Json) : Option ActionResult :=
  match value.toChoice? with
  | some ("Success", none) | some ("Success", some .null) => some .success
  | some ("Failure", some (.string message)) => some (.failure message)
  | _ => none

end ActionResult

namespace Gesture

def jsonKind {δ : Type} : Gesture δ → String
  | .tap _ => "Tap"
  | .longPress _ _ => "LongPress"
  | .swipe _ _ _ => "Swipe"
  | .threeFingerTap _ => "ThreeFingerTap"
  | .zoom _ _ _ _ => "Zoom"
  | .multiTap _ => "MultiTap"
  | .path _ _ => "ContinuousSwipe"

def jsonFields : Gesture Millis → List (String × Json)
  | .tap p | .threeFingerTap p => [("at", p.toJson)]
  | .longPress p d => [("at", p.toJson), ("duration_ms", .ofInt d.val)]
  | .swipe p q d => [("from", p.toJson), ("to", q.toJson), ("duration_ms", .ofInt d.val)]
  | .zoom p distance d direction =>
    [("center", p.toJson), ("distance", .ofInt distance.val), ("duration_ms", .ofInt d.val),
      ("direction", .string direction.jsonName)]
  | .multiTap points => [("points", .array (points.map Point.toJson))]
  | .path points d =>
    [("points", .array (points.map Point.toJson)), ("duration_ms", .ofInt d.val)]

end Gesture

namespace Action

def jsonKind : Action → String
  | .gesture g => g.jsonKind
  | .message _ => "LogMessage"
  | .namedValue _ _ => "LogVariable"
  | .overlay _ _ => "Overlay"
  | .find _ _ => "FindTemplate"

def jsonFields : Action → List (String × Json)
  | .gesture g => g.jsonFields
  | .message text => [("text", .string text)]
  | .namedValue name value => [("name", .string name), ("value", .string value)]
  | .overlay text d => [("text", .string text), ("duration_ms", .ofInt d.val)]
  | .find path m => [("path", .string path), ("matched", m.toJson)]

/-- An action as JSON: an object with its kind under `type` and one field for each argument. -/
def toJson (a : Action) : Json :=
  .record (("type", .string a.jsonKind) :: a.jsonFields)

/-- The fields of a record that must all be given. -/
def required? (names : List String) (value : Json) : Option (List Json) :=
  (value.toRecord? names).bind fun fields => fields.mapM id

/-- Reads the arguments of an action of the given kind. -/
def ofArguments? (kind : String) (value : Json) : Option Action :=
  match kind with
  | "Tap" =>
    match required? ["at"] value with
    | some [p] => do return .gesture (.tap (← Point.ofJson? p))
    | _ => none
  | "LongPress" =>
    match required? ["at", "duration_ms"] value with
    | some [p, d] => do return .gesture (.longPress (← Point.ofJson? p) (← d.toRanged?))
    | _ => none
  | "Swipe" =>
    match required? ["from", "to", "duration_ms"] value with
    | some [p, q, d] => do
      return .gesture (.swipe (← Point.ofJson? p) (← Point.ofJson? q) (← d.toRanged?))
    | _ => none
  | "ThreeFingerTap" =>
    match required? ["at"] value with
    | some [p] => do return .gesture (.threeFingerTap (← Point.ofJson? p))
    | _ => none
  | "Zoom" =>
    match required? ["center", "distance", "duration_ms", "direction"] value with
    | some [p, distance, d, direction] => do
      return .gesture (.zoom (← Point.ofJson? p) (← distance.toRanged?) (← d.toRanged?)
        (← Direction.ofActionJson? direction))
    | _ => none
  | "MultiTap" =>
    match required? ["points"] value with
    | some [points] => do return .gesture (.multiTap (← Point.listOfJson? points))
    | _ => none
  | "ContinuousSwipe" =>
    match required? ["points", "duration_ms"] value with
    | some [points, d] => do
      return .gesture (.path (← Point.listOfJson? points) (← d.toRanged?))
    | _ => none
  | "LogMessage" =>
    match required? ["text"] value with
    | some [text] => do return .message (← text.toText?)
    | _ => none
  | "LogVariable" =>
    match required? ["name", "value"] value with
    | some [name, content] => do return .namedValue (← name.toText?) (← content.toText?)
    | _ => none
  | "Overlay" =>
    match required? ["text", "duration_ms"] value with
    | some [text, d] => do return .overlay (← text.toText?) (← d.toRanged?)
    | _ => none
  | "FindTemplate" =>
    match required? ["path", "matched"] value with
    | some [path, m] => do return .find (← path.toText?) (← ImageMatch.ofJson? m)
    | _ => none
  | _ => none

/-- The kind of an action and the rest of its object; in an array the kind comes first. -/
def splitKind? : Json → Option (String × Json)
  | .object fields =>
    match fields.filter fun (key, _) => key == some "type" with
    | [(_, .string kind)] =>
      some (kind, .object (fields.filter fun (key, _) => key != some "type"))
    | _ => none
  | .array (.string kind :: items) => some (kind, .array items)
  | _ => none

/-- Reads an action in which arrays and objects are nested at most `room` deep. The whole object is
looked at before its kind is known, so every part of it must be meaningful, even in a field that is
then skipped. -/
def ofJsonWithin? (room : Nat) (value : Json) : Option Action :=
  if value.isMeaningful && decide (value.depth ≤ room) then
    (splitKind? value).bind fun (kind, rest) => ofArguments? kind rest
  else none

/-- The greatest nesting in a text that holds an action. -/
def nestingLimit : Nat := 127

/-- Reads an action that is a whole text. -/
def ofJson? (value : Json) : Option Action :=
  ofJsonWithin? nestingLimit value

end Action

end TouchScript
