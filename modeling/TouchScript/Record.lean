import TouchScript.Action.Codec
import TouchScript.Record.Stamp

namespace TouchScript

structure Stamp where
  id : RecordId
  time : RecordTime
deriving DecidableEq

/-- A line of a record file: a call and its result, stamped with an identifier and a time. -/
structure Record where
  stamp : Stamp
  entry : Entry
deriving DecidableEq

namespace Record

def toJson (r : Record) : Json :=
  .record [
    ("id", .string r.stamp.id.text),
    ("timestamp", .string r.stamp.time.text),
    ("action", r.entry.action.toJson),
    ("result", r.entry.result.toJson)]

/-- Reads a record. Its action is nested one level deeper than an action on its own. -/
def ofJson? (value : Json) : Option Record :=
  match value.toRecord? ["id", "timestamp", "action", "result"] with
  | some [some id, some time, some action, some result] => do
    let id ← id.toText?.bind RecordId.read?
    let time ← time.toText?.bind RecordTime.read?
    let action ← Action.ofJsonWithin? (Action.nestingLimit - 1) action
    let result ← ActionResult.ofJson? result
    return ⟨⟨id, time⟩, ⟨action, result⟩⟩
  | _ => none

def line (r : Record) : String :=
  r.toJson.compact

end Record

end TouchScript
