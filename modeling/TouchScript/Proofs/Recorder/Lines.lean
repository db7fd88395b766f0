import TouchScript.Proofs.Action.Codec
import TouchScript.Proofs.Text.Words
import TouchScript.Recorder

namespace TouchScript

/-- The texts of an identifier and a time stand for the identifier and the time themselves. -/
structure Stamp.IsReadable (s : Stamp) : Prop where
  id : RecordId.read? s.id.text = some s.id
  time : RecordTime.read? s.time.text = some s.time

namespace Record

/-- Reads a line of a record file. -/
def read? (line : String) : Option Record :=
  (Json.read? line).bind ofJson?

variable {r : Record}

/-- A record is nested four levels deep at most, one more than its action. -/
theorem fits_toJson (haction : r.entry.action.IsReadable) : r.toJson.Fits 4 := by
  refine Json.fits_record ?_
  simp [Json.fits_string, Action.fits_toJson haction, ActionResult.fits_toJson]

/-- A record is read back from its JSON if its stamp and its confidence are. -/
theorem ofJson?_toJson (hstamp : r.stamp.IsReadable) (haction : r.entry.action.IsReadable) :
    ofJson? r.toJson = some r := by
  have hfields := Json.toRecord?_record
    [("id", .string r.stamp.id.text), ("timestamp", .string r.stamp.time.text),
      ("action", r.entry.action.toJson), ("result", r.entry.result.toJson)] (by simp)
  simp only [List.map_cons, List.map_nil] at hfields
  have hroom : 3 ≤ Action.nestingLimit - 1 := by decide
  have hread := Action.ofJsonWithin?_toJson haction hroom
  simp [ofJson?, toJson, hfields, Json.toText?, hstamp.id, hstamp.time, hread, ActionResult.ofJson?_toJson]

/-- A record is read back from its line. -/
theorem read?_line (hstamp : r.stamp.IsReadable) (haction : r.entry.action.IsReadable) :
    read? r.line = some r := by
  rw [read?, line, Json.read?_compact (fits_toJson haction).formed, Option.bind_some,
    ofJson?_toJson hstamp haction]

/-- A line of a record file has no line feed inside, whatever texts there are in the call. -/
theorem not_mem_line (haction : r.entry.action.IsReadable) : '\n' ∉ r.line.toList := by
  rw [line, Json.compact, String.toList_ofList]
  exact Json.not_mem_compactChars _ (fits_toJson haction).formed

end Record

end TouchScript
