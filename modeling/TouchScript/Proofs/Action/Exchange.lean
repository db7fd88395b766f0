import TouchScript.Proofs.Action.Recast

namespace TouchScript

namespace Json

variable {α : Type} {decode : Json → Option α} {value : Json} {a : α}

/-- Reads a text that stands for an `α`. -/
def ofText? (decode : Json → Option α) (text : String) : Option α :=
  (read? text).bind decode

/-- A value is written as a single line, and from this line the same is read. -/
def ReadsBack (decode : Json → Option α) (value : Json) (a : α) : Prop :=
  '\n' ∉ value.compact.toList ∧ ofText? decode value.compact = some a

/-- A value is read back from its text if it is from its JSON, and if nothing in the JSON is
unreadable. The text is one line since control characters are escaped in it. -/
theorem readsBack_of_fits (room : Nat) (h : value.Fits room) (hdecode : decode value = some a) :
    ReadsBack decode value a := by
  constructor
  · rw [compact, String.toList_ofList]
    exact not_mem_compactChars value h.formed
  · rw [ofText?, read?_compact h.formed]
    exact hdecode

/-- Two texts whose JSON is decoded alike are read alike. -/
theorem ofText?_eq {s t : String} {other : Json} (hs : read? s = some value) (ht : read? t = some other)
    (hdecode : decode value = decode other) : ofText? decode s = ofText? decode t := by
  rw [ofText?, ofText?, hs, ht]
  exact hdecode

end Json

/-- A direction on its own is read back from its name. -/
theorem Direction.ofJson?_jsonName (d : Direction) : ofJson? (.string d.jsonName) = some d := by
  cases d <;> rfl

namespace Value

/-- A value of a script takes no room for nesting: it is a number or a text. -/
theorem fits_toJson (v : Value) {room : Nat} : v.toJson.Fits room := by
  cases v with
  | number n =>
    have hlo := n.lo_le
    have hhi := n.le_hi
    exact Json.fits_ofInt (by change _ < 18446744073709551616; omega)
  | text s => exact Json.fits_string s

/-- A value of a script is read back. A number stays a number and text stays text, also text of
digits. -/
theorem ofJson?_toJson (v : Value) : ofJson? v.toJson = some v := by
  cases v with
  | number n =>
    change (Json.ofInt n.val).toRanged?.map number = some (number n)
    rw [Json.toRanged?_ofInt]
    rfl
  | text s => rfl

end Value

section Objects

variable {fields : List (Option String × Json)}

/-- An object is a choice only if it has exactly one field. -/
theorem Json.toChoice?_object (h : fields.length ≠ 1) : (object fields).toChoice? = none := by
  match fields with
  | [] => rfl
  | [_] => exact absurd rfl h
  | (key, _) :: _ :: _ => cases key <;> rfl

/-- An object is a direction only if it has one field. -/
theorem Direction.ofJson?_object (h : fields.length ≠ 1) : ofJson? (.object fields) = none := by
  rw [ofJson?, ofChoice?, Json.toChoice?_object h]

/-- An object is a result only if it has one field. -/
theorem ActionResult.ofJson?_object (h : fields.length ≠ 1) : ofJson? (.object fields) = none := by
  rw [ofJson?, Json.toChoice?_object h]

end Objects

/-- What is exchanged is read back, and objects are read in the same way however their fields are ordered
and whatever other fields they have. Every point, direction, result, value, match and action, with a
confidence that stands for itself, is written as a single line from which the same is read. Two texts for a
point, for a match or for an action that agree in the fields with known names, up to their order, in the
points and the match inside of an action too, are read as the same or both refused; for an action, provided
that both or neither can be kept until its kind is known. An object with another number of fields than one
is no direction and no result, and no object is a value. -/
theorem Json.exchange_faithful :
    (∀ p : Point, ReadsBack Point.ofJson? p.toJson p) ∧
    (∀ d : Direction, ReadsBack Direction.ofJson? (.string d.jsonName) d) ∧
    (∀ r : ActionResult, ReadsBack ActionResult.ofJson? r.toJson r) ∧
    (∀ v : Value, ReadsBack Value.ofJson? v.toJson v) ∧
    (∀ m : ImageMatch, m.confidence.IsReadable → ReadsBack ImageMatch.ofJson? m.toJson m) ∧
    (∀ a : Action, a.IsReadable → ReadsBack Action.ofJson? a.toJson a) ∧
    (∀ {s t : String} {value other : Json}, read? s = some value → read? t = some other →
      (Point.Recast value other → ofText? Point.ofJson? s = ofText? Point.ofJson? t) ∧
      (ImageMatch.Recast value other → ofText? ImageMatch.ofJson? s = ofText? ImageMatch.ofJson? t) ∧
      (Action.Recast value other → (Action.CanBeKept value ↔ Action.CanBeKept other) →
        ofText? Action.ofJson? s = ofText? Action.ofJson? t)) ∧
    ∀ fields : List (Option String × Json),
      (fields.length ≠ 1 →
        Direction.ofJson? (.object fields) = none ∧ ActionResult.ofJson? (.object fields) = none) ∧
      Value.ofJson? (.object fields) = none := by
  refine ⟨fun p => ?_, fun d => ?_, fun r => ?_, fun v => ?_, fun m hm => ?_, fun a ha => ?_, ?_, ?_⟩
  · exact readsBack_of_fits 1 p.fits_toJson p.ofJson?_toJson
  · exact readsBack_of_fits 0 (fits_string d.jsonName) d.ofJson?_jsonName
  · exact readsBack_of_fits 1 r.fits_toJson r.ofJson?_toJson
  · exact readsBack_of_fits 0 v.fits_toJson v.ofJson?_toJson
  · exact readsBack_of_fits 1 (ImageMatch.fits_toJson hm) (ImageMatch.ofJson?_toJson hm)
  · exact readsBack_of_fits 3 (Action.fits_toJson ha) (Action.ofJsonWithin?_toJson ha (by decide))
  · intro s t value other hs ht
    exact ⟨fun h => ofText?_eq hs ht (Point.Recast.ofJson?_eq h),
      fun h => ofText?_eq hs ht (ImageMatch.Recast.ofJson?_eq h),
      fun h hkept => ofText?_eq hs ht (h.ofJson?_eq hkept)⟩
  · intro fields
    exact ⟨fun h => ⟨Direction.ofJson?_object h, ActionResult.ofJson?_object h⟩, rfl⟩

/-- A tap whose kind comes last, with a field that is not known. -/
def turnedTap : List (String × Json) :=
  [("note", .array [.null]), ("at", .record [("y", .ofInt 2), ("x", .ofInt 1)]), ("type", .string "Tap")]

/-- The same tap, with a field in its point that is not known. -/
def wideTap : List (String × Json) :=
  [("type", .string "Tap"), ("at", .record [("x", .ofInt 1), ("y", .ofInt 2), ("z", .bool true)])]

/-- Two ways to give a tap; and a match with the confidence zero, on its own and in an action. -/
theorem Json.exchange_faithful_tap :
    ImageMatch.notFound.confidence.IsReadable ∧
      ReadsBack ImageMatch.ofJson? ImageMatch.notFound.toJson ImageMatch.notFound ∧
      ReadsBack Action.ofJson? (Action.find "a" ImageMatch.notFound).toJson (.find "a" ImageMatch.notFound) ∧
      read? (record turnedTap).compact = some (record turnedTap) ∧
      read? (record wideTap).compact = some (record wideTap) ∧
      Action.Recast (record turnedTap) (record wideTap) ∧
      (Action.CanBeKept (record turnedTap) ↔ Action.CanBeKept (record wideTap)) ∧
      ofText? Action.ofJson? (record turnedTap).compact =
        some (.gesture (.tap ⟨⟨1, by decide, by decide⟩, ⟨2, by decide, by decide⟩⟩)) := by
  have hreadable : ImageMatch.notFound.confidence.IsReadable := Binary64.isReadable_zero
  have hturned : read? (record turnedTap).compact = some (record turnedTap) := by
    apply read?_compact
    simp [turnedTap, record, Formed, FieldsFormed, ItemsFormed, ofInt, NumberText.formed_ofInt]
  have hwide : read? (record wideTap).compact = some (record wideTap) := by
    apply read?_compact
    simp [wideTap, record, Formed, FieldsFormed, ofInt, NumberText.formed_ofInt]
  have hpoint : Point.Recast (record [("y", .ofInt 2), ("x", .ofInt 1)])
      (record [("x", .ofInt 1), ("y", .ofInt 2), ("z", .bool true)]) := by
    refine .record ⟨[("x", .ofInt 1), ("y", .ofInt 2)], List.Perm.swap _ _ _, ?_⟩
    exact .cons ⟨rfl, rfl⟩ (.cons ⟨rfl, rfl⟩ .nil)
  have hrecast : Action.Recast (record turnedTap) (record wideTap) := by
    refine ⟨turnedTap, wideTap, rfl, rfl,
      [("type", .string "Tap"), ("at", .record [("y", .ofInt 2), ("x", .ofInt 1)])], List.Perm.swap _ _ _, ?_⟩
    exact .cons ⟨rfl, rfl⟩ (.cons ⟨rfl, hpoint⟩ .nil)
  have hkept : Action.CanBeKept (record turnedTap) ↔ Action.CanBeKept (record wideTap) := by decide
  have htap : ofText? Action.ofJson? (record wideTap).compact =
      some (.gesture (.tap ⟨⟨1, by decide, by decide⟩, ⟨2, by decide, by decide⟩⟩)) := by
    rw [ofText?, hwide]
    decide
  obtain ⟨_, _, _, _, hmatch, haction, htexts, _⟩ := exchange_faithful
  exact ⟨hreadable, hmatch _ hreadable, haction _ hreadable, hturned, hwide, hrecast, hkept,
    ((htexts hturned hwide).2.2 hrecast hkept).trans htap⟩

/-- Arrays in arrays. -/
def Json.nested : Nat → Json
  | 0 => .null
  | n + 1 => .array [nested n]

/-- Arrays can be nested to any depth and still be written and read. -/
theorem Json.formed_nested (n : Nat) : (nested n).Formed := by
  induction n with
  | zero => trivial
  | succ n ih => exact ⟨ih, trivial⟩

/-- A field more than is known is not always skipped. In a result it stands in the way of the choice. In an
action it is kept, which fails for a number that is too large and for arrays that are nested too deeply. And
a name that is no text is refused everywhere. -/
theorem Json.extra_field_refused :
    ofText? ActionResult.ofJson? "\x7b\"Failure\":\"x\"\x7d" = some (.failure "x") ∧
      ofText? ActionResult.ofJson? "\x7b\"Failure\":\"x\",\"note\":1\x7d" = none ∧
      ofText? Action.ofJson? "\x7b\"type\":\"LogMessage\",\"text\":\"x\"\x7d" = some (.message "x") ∧
      ofText? Action.ofJson? "\x7b\"type\":\"LogMessage\",\"text\":\"x\",\"note\":1e400\x7d" = none ∧
      ofText? Action.ofJson?
        (record [("type", .string "LogMessage"), ("text", .string "x"), ("note", nested 127)]).compact = none ∧
      ofText? Point.ofJson? "\x7b\"x\":1,\"y\":2\x7d" =
        some ⟨⟨1, by decide, by decide⟩, ⟨2, by decide, by decide⟩⟩ ∧
      ofText? Point.ofJson? "\x7b\"x\":1,\"y\":2,\"\\ud800\":3\x7d" = none := by
  have hformed : (record [("type", .string "LogMessage"), ("text", .string "x"), ("note", nested 127)]).Formed :=
    ⟨trivial, trivial, formed_nested 127, trivial⟩
  refine ⟨rfl, rfl, by decide +kernel, by decide +kernel, ?_, by decide +kernel, rfl⟩
  rw [ofText?, read?_compact hformed]
  decide +kernel

end TouchScript
