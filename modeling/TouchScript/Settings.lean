import TouchScript.Json.Decode
import TouchScript.Json.Reader
import TouchScript.Json.Writer

namespace TouchScript

/-- When labels become known: all at once when their sequence is entered, or each when it is
executed. -/
inductive LabelResolution where
  | eager
  | lazy
deriving DecidableEq

/-- A limit on nested function calls: a 64-bit unsigned integer. -/
abbrev CallDepth := Ranged 0 18446744073709551615

/-- What a user can choose about reading and running scripts. -/
structure Settings where
  /-- The pause after every gesture. -/
  settleDelay : Millis
  /-- How long an overlay stays on the screen. -/
  overlayDuration : Millis
  labelResolution : LabelResolution
  /-- Whether a block's own terminator must match the block. -/
  strictTerminators : Bool
  /-- Whether `set` with an operator computes; otherwise it stores its text. -/
  setArithmetic : Bool
  maxCallDepth : CallDepth
deriving DecidableEq

namespace LabelResolution

def name : LabelResolution → String
  | .eager => "eager"
  | .lazy => "lazy"

def ofJson? (value : Json) : Option LabelResolution :=
  match value.toChoice? with
  | some (name, none) | some (name, some .null) =>
    [eager, lazy].find? fun choice => choice.name == name
  | _ => none

end LabelResolution

namespace Settings

def default : Settings where
  settleDelay := ⟨50, by decide, by decide⟩
  overlayDuration := ⟨3000, by decide, by decide⟩
  labelResolution := .eager
  strictTerminators := true
  setArithmetic := true
  maxCallDepth := ⟨64, by decide, by decide⟩

def fieldNames : List String :=
  ["settle_delay_ms", "overlay_duration_ms", "label_resolution", "strict_terminators",
    "set_arithmetic", "max_call_depth"]

/-- Reads a field that may be absent. -/
def fieldOr {α : Type} (read : Json → Option α) (absent : α) : Option Json → Option α
  | none => some absent
  | some value => read value

/-- Reads settings. A field that is absent has its default, and a single bad field makes the whole
unreadable. -/
def ofJson? (value : Json) : Option Settings :=
  match value.toRecord? fieldNames with
  | some [settle, overlay, labels, strict, arithmetic, depth] => do
    return {
      settleDelay := ← fieldOr Json.toRanged? default.settleDelay settle
      overlayDuration := ← fieldOr Json.toRanged? default.overlayDuration overlay
      labelResolution := ← fieldOr LabelResolution.ofJson? default.labelResolution labels
      strictTerminators := ← fieldOr Json.toBool? default.strictTerminators strict
      setArithmetic := ← fieldOr Json.toBool? default.setArithmetic arithmetic
      maxCallDepth := ← fieldOr Json.toRanged? default.maxCallDepth depth }
  | _ => none

def toJson (settings : Settings) : Json :=
  .record [
    ("settle_delay_ms", .ofInt settings.settleDelay.val),
    ("overlay_duration_ms", .ofInt settings.overlayDuration.val),
    ("label_resolution", .string settings.labelResolution.name),
    ("strict_terminators", .bool settings.strictTerminators),
    ("set_arithmetic", .bool settings.setArithmetic),
    ("max_call_depth", .ofInt settings.maxCallDepth.val)]

def read? (text : String) : Option Settings :=
  (Json.read? text).bind ofJson?

def write (settings : Settings) : String :=
  settings.toJson.indented

/-- Reads a settings file that may be absent or unusable, in which case the defaults hold. -/
def readOrDefault (text : Option String) : Settings :=
  (text.bind read?).getD default

end Settings

end TouchScript
