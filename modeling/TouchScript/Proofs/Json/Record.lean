import Mathlib.Data.List.Nodup
import TouchScript.Proofs.Json.Integer
import TouchScript.Proofs.Json.RoundTrip

namespace TouchScript.Json

/-- A value that is read back from its text where every part must have a meaning and arrays and objects
may be nested at most `room` deep. -/
structure Fits (room : Nat) (value : Json) : Prop where
  formed : value.Formed
  meaningful : value.isMeaningful = true
  depth_le : value.depth ≤ room

variable {room : Nat}

/-- A text is not nested and always has a meaning. -/
theorem fits_string (s : String) : Fits room (.string s) :=
  ⟨trivial, rfl, Nat.zero_le _⟩

/-- A truth value is not nested and always has a meaning. -/
theorem fits_bool (b : Bool) : Fits room (.bool b) :=
  ⟨trivial, rfl, Nat.zero_le _⟩

/-- An integer of 64 bits has a meaning, though it may be rounded when it is taken for a binary
number. -/
theorem fits_ofInt {n : Int} (hn : n.natAbs < Nat.pow 2 64) : Fits room (ofInt n) :=
  ⟨NumberText.formed_ofInt n, NumberText.isSome_toBinary64?_ofInt hn, Nat.zero_le _⟩

/-- A binary number has a meaning if one is read from its text. -/
theorem fits_ofBinary64 {x : Binary64} (hx : (NumberText.ofBinary64 x).toBinary64?.isSome = true) :
    Fits room (ofBinary64 x) :=
  ⟨NumberText.formed_ofBinary64 x, hx, Nat.zero_le _⟩

/-- An array takes one level more than its elements. -/
theorem fits_array {items : List Json} (h : ∀ value ∈ items, Fits room value) :
    Fits (room + 1) (.array items) := by
  have hitems : ItemsFormed items ∧ itemsMeaningful items = true ∧ depthOfItems items ≤ room := by
    induction items with
    | nil => exact ⟨trivial, rfl, Nat.zero_le _⟩
    | cons value rest ih =>
      obtain ⟨hvalue, hrest⟩ := List.forall_mem_cons.mp h
      obtain ⟨hformed, hmeaningful, hdepth⟩ := ih hrest
      refine ⟨⟨hvalue.formed, hformed⟩, ?_, Nat.max_le.mpr ⟨hvalue.depth_le, hdepth⟩⟩
      rw [itemsMeaningful, hvalue.meaningful, hmeaningful]
      rfl
  exact ⟨hitems.1, hitems.2.1, Nat.succ_le_succ hitems.2.2⟩

/-- The fields of a record as they stand in an object. -/
def named (fields : List (String × Json)) : List (Option String × Json) :=
  fields.map fun field => (some field.1, field.2)

theorem record_eq (fields : List (String × Json)) : record fields = .object (named fields) :=
  rfl

/-- A record takes one level more than its values. -/
theorem fits_record {fields : List (String × Json)} (h : ∀ field ∈ fields, Fits room field.2) :
    Fits (room + 1) (record fields) := by
  have hfields : FieldsFormed (named fields) ∧ fieldsMeaningful (named fields) = true ∧
      depthOfFields (named fields) ≤ room := by
    induction fields with
    | nil => exact ⟨trivial, rfl, Nat.zero_le _⟩
    | cons field rest ih =>
      obtain ⟨hfield, hrest⟩ := List.forall_mem_cons.mp h
      obtain ⟨hformed, hmeaningful, hdepth⟩ := ih hrest
      refine ⟨⟨hfield.formed, hformed⟩, ?_, Nat.max_le.mpr ⟨hfield.depth_le, hdepth⟩⟩
      rw [named, List.map_cons, ← named, fieldsMeaningful, hfield.meaningful, hmeaningful]
      rfl
  exact ⟨hfields.1, hfields.2.1, Nat.succ_le_succ hfields.2.2⟩

/-- A number in range is read back, whatever the range. -/
theorem toRanged?_ofInt {lo hi : Int} (n : Ranged lo hi) : (ofInt n.val).toRanged? = some n := by
  rw [ofInt, toRanged?, NumberText.toInt?_ofInt, Option.bind_some, Ranged.ofInt?_val]

section Lookup

variable {fields : List (String × Json)}

/-- A key that stands once leads to its value. -/
theorem lookup?_named (hkeys : (fields.map Prod.fst).Nodup) {field : String × Json} (hfield : field ∈ fields) :
    lookup? (named fields) field.1 = some field.2 := by
  have hmem : (some field.1, field.2) ∈ (named fields).reverse :=
    List.mem_reverse.mpr (List.mem_map_of_mem hfield)
  change ((named fields).reverse.find? fun entry => entry.1 == some field.1).map Prod.snd = _
  cases hfound : (named fields).reverse.find? fun entry => entry.1 == some field.1 with
  | none => simpa using List.find?_eq_none.mp hfound _ hmem
  | some found =>
    have hname := List.find?_some hfound
    obtain ⟨other, hother, rfl⟩ := List.mem_map.mp (List.mem_reverse.mp (List.mem_of_find?_eq_some hfound))
    have hsame : other = field := List.inj_on_of_nodup_map hkeys hother hfield (by simpa using hname)
    rw [hsame]
    rfl

/-- A record whose keys are distinct gives all its fields in order. -/
theorem toRecord?_record (fields : List (String × Json)) (hkeys : (fields.map Prod.fst).Nodup) :
    (record fields).toRecord? (fields.map Prod.fst) = some (fields.map fun field => some field.2) := by
  have hnames : (named fields).map Prod.fst = (fields.map Prod.fst).map some := by simp [named]
  have hnone : ((fields.map Prod.fst).map some).contains none = false := by simp
  have hcount : ((fields.map Prod.fst).any fun name =>
      decide (1 < ((fields.map Prod.fst).map some).count (some name))) = false := by
    rw [List.any_eq_false]
    intro name _
    have hle := List.nodup_iff_count_le_one.mp (hkeys.map fun _ _ => Option.some.inj) (some name)
    simpa using hle
  have hvalues : (fields.map Prod.fst).map (lookup? (named fields)) = fields.map fun field => some field.2 := by
    rw [List.map_map]
    exact List.map_congr_left fun field hfield => lookup?_named hkeys hfield
  simp only [record_eq, toRecord?, hnames, hnone, hcount, hvalues, Bool.or_self, Bool.false_eq_true, if_false]

end Lookup

end TouchScript.Json
