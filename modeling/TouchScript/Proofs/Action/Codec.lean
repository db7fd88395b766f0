import TouchScript.Action.Codec
import TouchScript.Proofs.Json.Record

namespace TouchScript

/-- The text of a number in JSON stands for the number itself. -/
def Binary64.IsReadable (x : Binary64) : Prop :=
  (NumberText.ofBinary64 x).toBinary64? = some x

/-- The confidence of an image that is not found stands for itself. -/
theorem Binary64.isReadable_zero : zero.IsReadable := by
  rfl

variable {room : Nat}

/-- A coordinate takes no room for nesting: it is a number. -/
theorem Coordinate.fits (n : Coordinate) : (Json.ofInt n.val).Fits room := by
  have hlo := n.lo_le
  have hhi := n.le_hi
  exact Json.fits_ofInt (by change _ < 18446744073709551616; omega)

/-- Nor does a number of milliseconds. -/
theorem Millis.fits (n : Millis) : (Json.ofInt n.val).Fits room := by
  have hlo := n.lo_le
  have hhi := n.le_hi
  exact Json.fits_ofInt (by change _ < 18446744073709551616; omega)

namespace Point

/-- A point is nested one level deep, as its fields are numbers. -/
theorem fits_toJson (p : Point) : p.toJson.Fits (room + 1) :=
  Json.fits_record (by simp [Coordinate.fits])

/-- A point is read back from its JSON. -/
theorem ofJson?_toJson (p : Point) : ofJson? p.toJson = some p := by
  have hfields := Json.toRecord?_record [("x", .ofInt p.x.val), ("y", .ofInt p.y.val)] (by simp)
  simp only [List.map_cons, List.map_nil] at hfields
  simp [ofJson?, toJson, hfields, Json.toRanged?_ofInt]

/-- A list of points is one level deeper than a point. -/
theorem fits_listToJson (points : List Point) : (Json.array (points.map toJson)).Fits (room + 2) :=
  Json.fits_array (by simp [fits_toJson])

/-- A list of points is read back, with its order. -/
theorem listOfJson?_toJson (points : List Point) : listOfJson? (.array (points.map toJson)) = some points := by
  rw [listOfJson?, Json.toItems?, Option.bind_some]
  induction points with
  | nil => rfl
  | cons p rest ih => simp [ofJson?_toJson, ih]

end Point

/-- The direction of an action is read back from its name. -/
theorem Direction.ofActionJson?_jsonName (d : Direction) : ofActionJson? (.string d.jsonName) = some d := by
  cases d <;> rfl

namespace ActionResult

/-- A result is nested at most one level deep: it is a name, or an object with a text. -/
theorem fits_toJson (r : ActionResult) : r.toJson.Fits (room + 1) := by
  cases r with
  | success => exact Json.fits_string _
  | failure message => exact Json.fits_record (by simp [Json.fits_string])

/-- A result is read back from its JSON, with the message of a failure. -/
theorem ofJson?_toJson (r : ActionResult) : ofJson? r.toJson = some r := by
  cases r <;> rfl

end ActionResult

namespace ImageMatch

variable {m : ImageMatch}

/-- A match is nested one level deep if its confidence can be read. -/
theorem fits_toJson (h : m.confidence.IsReadable) : m.toJson.Fits (room + 1) :=
  Json.fits_record (by simp [Json.fits_bool, Coordinate.fits, Json.fits_ofBinary64 (Option.isSome_of_mem h)])

/-- A match is read back if its confidence is. Its other fields are integers and a truth value,
which always are. -/
theorem ofJson?_toJson (h : m.confidence.IsReadable) : ofJson? m.toJson = some m := by
  have hfields := Json.toRecord?_record
    [("found", .bool m.found), ("x", .ofInt m.x.val), ("y", .ofInt m.y.val),
      ("confidence", .ofBinary64 m.confidence)] (by simp)
  have hconfidence : (Json.ofBinary64 m.confidence).toBinary64? = some m.confidence := h
  simp only [List.map_cons, List.map_nil] at hfields
  simp [ofJson?, toJson, hfields, Json.toBool?, Json.toRanged?_ofInt, hconfidence]

end ImageMatch

namespace Action

/-- The confidence in an action, if it has one, is read back. -/
def IsReadable : Action → Prop
  | .find _ m => m.confidence.IsReadable
  | _ => True

/-- No kind of action has two arguments of one name. -/
theorem nodup_jsonFields (a : Action) : (a.jsonFields.map Prod.fst).Nodup := by
  cases a with
  | gesture g => cases g <;> simp [jsonFields, Gesture.jsonFields]
  | _ => simp [jsonFields]

/-- No argument of an action is named as its kind is, so the kind can be told from the arguments. -/
theorem type_not_mem_jsonFields (a : Action) : "type" ∉ a.jsonFields.map Prod.fst := by
  cases a with
  | gesture g => cases g <;> simp [jsonFields, Gesture.jsonFields]
  | _ => simp [jsonFields]

/-- The arguments of an action are nested two levels deep at most, those of a list of points. -/
theorem fits_jsonFields {a : Action} (h : a.IsReadable) : ∀ field ∈ a.jsonFields, field.2.Fits (room + 2) := by
  cases a with
  | gesture g =>
    cases g <;> simp [jsonFields, Gesture.jsonFields, Point.fits_toJson, Point.fits_listToJson,
      Coordinate.fits, Millis.fits, Json.fits_string]
  | find path m => simp [jsonFields, Json.fits_string, ImageMatch.fits_toJson h]
  | _ => simp [jsonFields, Json.fits_string, Millis.fits]

/-- An action is nested three levels deep at most. -/
theorem fits_toJson {a : Action} (h : a.IsReadable) : a.toJson.Fits (room + 3) :=
  Json.fits_record (List.forall_mem_cons.mpr ⟨Json.fits_string _, fits_jsonFields h⟩)

/-- From an object with the wanted names, and no other, the values are taken in order. -/
theorem required?_record {fields : List (String × Json)} (hkeys : (fields.map Prod.fst).Nodup) :
    required? (fields.map Prod.fst) (.record fields) = some (fields.map Prod.snd) := by
  rw [required?, Json.toRecord?_record fields hkeys, Option.bind_some]
  clear hkeys
  induction fields with
  | nil => rfl
  | cons field rest ih => simp [ih]

/-- The kind of an action is taken out of its fields. -/
theorem splitKind?_record {kind : String} {fields : List (String × Json)} (h : "type" ∉ fields.map Prod.fst) :
    splitKind? (.record (("type", .string kind) :: fields)) = some (kind, .record fields) := by
  have hother : ∀ field ∈ Json.named fields, field.1 ≠ some "type" := by
    intro field hfield heq
    obtain ⟨given, hmem, rfl⟩ := List.mem_map.mp hfield
    rw [← Option.some.inj heq] at h
    exact h (List.mem_map_of_mem hmem)
  have hkind : (Json.named fields).filter (fun field => field.1 == some "type") = [] :=
    List.filter_eq_nil_iff.mpr fun field hfield => by simpa using hother field hfield
  have hrest : (Json.named fields).filter (fun field => field.1 != some "type") = Json.named fields :=
    List.filter_eq_self.mpr fun field hfield => by simpa using hother field hfield
  have hkinds : (Json.named (("type", .string kind) :: fields)).filter (fun field => field.1 == some "type") =
      [(some "type", .string kind)] := by
    rw [Json.named, List.map_cons, List.filter_cons_of_pos (by rfl), ← Json.named, hkind]
  have hothers : (Json.named (("type", .string kind) :: fields)).filter (fun field => field.1 != some "type") =
      Json.named fields := by
    rw [Json.named, List.map_cons, List.filter_cons_of_neg (by simp), ← Json.named, hrest]
  rw [Json.record_eq, splitKind?]
  split
  next found hfound =>
    cases hkinds.symm.trans hfound
    exact congrArg (fun others => some (kind, Json.object others)) hothers
  next hnone => exact absurd hkinds (hnone _ _)

/-- An action is read back from its kind and its arguments. -/
theorem ofArguments?_jsonFields {a : Action} (h : a.IsReadable) :
    ofArguments? a.jsonKind (.record a.jsonFields) = some a := by
  have hfields := required?_record a.nodup_jsonFields
  cases a with
  | gesture g =>
    cases g <;>
      simp only [jsonFields, Gesture.jsonFields, List.map_cons, List.map_nil] at hfields <;>
      simp [jsonKind, jsonFields, Gesture.jsonKind, Gesture.jsonFields, ofArguments?, hfields,
        Point.ofJson?_toJson, Point.listOfJson?_toJson, Json.toRanged?_ofInt, Direction.ofActionJson?_jsonName]
  | find path m =>
    simp only [jsonFields, List.map_cons, List.map_nil] at hfields
    simp [jsonKind, jsonFields, ofArguments?, hfields, Json.toText?, ImageMatch.ofJson?_toJson h]
  | _ =>
    simp only [jsonFields, List.map_cons, List.map_nil] at hfields
    simp [jsonKind, jsonFields, ofArguments?, hfields, Json.toText?, Json.toRanged?_ofInt]

/-- An action is read back from its JSON, even where it is nested in a larger value. -/
theorem ofJsonWithin?_toJson {a : Action} (h : a.IsReadable) {room : Nat} (hroom : 3 ≤ room) :
    ofJsonWithin? room a.toJson = some a := by
  obtain ⟨more, rfl⟩ := Nat.exists_eq_add_of_le' hroom
  have hfits : a.toJson.Fits (more + 3) := fits_toJson h
  rw [ofJsonWithin?, hfits.meaningful, decide_eq_true hfits.depth_le, Bool.and_self, if_pos rfl, toJson,
    splitKind?_record a.type_not_mem_jsonFields, Option.bind_some]
  exact ofArguments?_jsonFields h

end Action

end TouchScript
