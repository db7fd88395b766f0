import TouchScript.Bindings
import TouchScript.Geometry
import TouchScript.Json.Decode
import TouchScript.Json.Reader
import TouchScript.Json.Writer

namespace TouchScript

/-- The answer to a template search: whether the image was found, where, and with which confidence. -/
structure ImageMatch where
  found : Bool
  x : Coordinate
  y : Coordinate
  confidence : Binary64
deriving DecidableEq

namespace ImageMatch

def located (x y : Coordinate) (confidence : Binary64) : ImageMatch :=
  ⟨true, x, y, confidence⟩

/-- The answer when there is no match. -/
def notFound : ImageMatch :=
  ⟨false, ⟨-1, by decide, by decide⟩, ⟨-1, by decide, by decide⟩, Binary64.zero⟩

/-- Reads a match; everything but `found` may be absent and is then zero. -/
def ofJson? (value : Json) : Option ImageMatch :=
  let origin : Coordinate := ⟨0, by decide, by decide⟩
  match value.toRecord? ["found", "x", "y", "confidence"] with
  | some [some found, x, y, confidence] => do
    return {
      found := ← found.toBool?
      x := ← (x.map Json.toRanged?).getD (some origin)
      y := ← (y.map Json.toRanged?).getD (some origin)
      confidence := ← (confidence.map Json.toBinary64?).getD (some Binary64.zero) }
  | _ => none

def toJson (m : ImageMatch) : Json :=
  .record [
    ("found", .bool m.found),
    ("x", .ofInt m.x.val),
    ("y", .ofInt m.y.val),
    ("confidence", .ofBinary64 m.confidence)]

end ImageMatch

abbrev ImageTable := Bindings ImageMatch

namespace ImageTable

/-- Reads a table. Of a path that stands twice the last entry counts, but each must be readable. -/
def ofJson? (value : Json) : Option ImageTable :=
  value.toFields?.bind fun fields =>
    fields.foldlM
      (fun table (path, entry) => (ImageMatch.ofJson? entry).map fun m => table.set path m) []

def read? (text : String) : Option ImageTable :=
  (Json.read? text).bind ofJson?

end ImageTable

end TouchScript
