import TouchScript.Proofs.Json.Fields
import TouchScript.Proofs.Json.Indented
import TouchScript.Settings

namespace TouchScript

/-- A number that is written as an integer. -/
def Json.IsInteger (value : Json) (n : Int) : Prop :=
  ∃ number, value = .number number ∧ number.toInt? = some n

/-- An integer in range is read exactly from the numbers that are written as integers, without point
or exponent. -/
theorem Json.toRanged?_eq_some_iff {lo hi : Int} {value : Json} {n : Ranged lo hi} :
    value.toRanged? = some n ↔ value.IsInteger n.val := by
  unfold toRanged? IsInteger
  split
  next number =>
    constructor
    · intro h
      obtain ⟨k, hk, hn⟩ := Option.bind_eq_some_iff.mp h
      exact ⟨number, rfl, by rw [hk, Ranged.ofInt?_eq_some_iff.mp hn]⟩
    · rintro ⟨other, hsame, hn⟩
      obtain rfl := Json.number.inj hsame
      rw [hn, Option.bind_some, Ranged.ofInt?_val]
  next hother =>
    constructor
    · nofun
    · rintro ⟨number, rfl, _⟩
      exact absurd rfl (hother number)

/-- A truth value is read from itself alone. -/
theorem Json.toBool?_eq_some_iff {value : Json} {b : Bool} : value.toBool? = some b ↔ value = .bool b := by
  cases value <;> simp [toBool?]

/-- A choice by its name: the name alone, or with nothing under it. -/
def LabelResolution.IsNamed (value : Json) (choice : LabelResolution) : Prop :=
  value = .string choice.name ∨ value = .object [(some choice.name, .null)]

namespace LabelResolution

/-- No two choices have one name. -/
theorem find?_name {name : String} {choice : LabelResolution} :
    [eager, lazy].find? (fun choice => choice.name == name) = some choice ↔ name = choice.name := by
  constructor
  · intro h
    have hname := List.find?_some h
    exact (beq_iff_eq.mp hname).symm
  · rintro rfl
    cases choice <;> rfl

/-- A choice is read from its name, or from an object with nothing under the name, and from nothing
else. -/
theorem ofJson?_eq_some_iff {value : Json} {choice : LabelResolution} :
    ofJson? value = some choice ↔ IsNamed value choice := by
  unfold ofJson? IsNamed
  match value with
  | .string name => exact find?_name.trans (by simp)
  | .object [(some name, content)] =>
    cases content with
    | null => exact find?_name.trans (by simp)
    | _ => simp [Json.toChoice?]
  | .object [] | .object ((none, _) :: _) | .object (_ :: _ :: _) => simp [Json.toChoice?]
  | .null | .bool _ | .number _ | .garbled | .array _ => simp [Json.toChoice?]

end LabelResolution

namespace Settings

/-- The fields of settings. -/
inductive Key where
  | settleDelay
  | overlayDuration
  | labelResolution
  | strictTerminators
  | setArithmetic
  | maxCallDepth
deriving DecidableEq

namespace Key

def name : Key → String
  | .settleDelay => "settle_delay_ms"
  | .overlayDuration => "overlay_duration_ms"
  | .labelResolution => "label_resolution"
  | .strictTerminators => "strict_terminators"
  | .setArithmetic => "set_arithmetic"
  | .maxCallDepth => "max_call_depth"

/-- All fields, in the order in which they are written. -/
def all : List Key :=
  [settleDelay, overlayDuration, labelResolution, strictTerminators, setArithmetic, maxCallDepth]

/-- The names of the keys are the names of the fields, in the same order. -/
theorem fieldNames_eq : fieldNames = all.map name :=
  rfl

theorem mem_all (key : Key) : key ∈ all := by
  cases key <;> decide

/-- The value stands for what the settings have in a field. -/
def Holds (settings : Settings) (value : Json) : Key → Prop
  | .settleDelay => value.IsInteger settings.settleDelay.val
  | .overlayDuration => value.IsInteger settings.overlayDuration.val
  | .labelResolution => LabelResolution.IsNamed value settings.labelResolution
  | .strictTerminators => value = .bool settings.strictTerminators
  | .setArithmetic => value = .bool settings.setArithmetic
  | .maxCallDepth => value.IsInteger settings.maxCallDepth.val

/-- Two settings have the same in a field. -/
def Agrees (settings other : Settings) : Key → Prop
  | .settleDelay => settings.settleDelay = other.settleDelay
  | .overlayDuration => settings.overlayDuration = other.overlayDuration
  | .labelResolution => settings.labelResolution = other.labelResolution
  | .strictTerminators => settings.strictTerminators = other.strictTerminators
  | .setArithmetic => settings.setArithmetic = other.setArithmetic
  | .maxCallDepth => settings.maxCallDepth = other.maxCallDepth

/-- The value is one that some settings have in a field. -/
def Valid (value : Json) (key : Key) : Prop :=
  ∃ settings, key.Holds settings value

end Key

/-- No field is given twice, and each that is given has a valid value. -/
def Usable (fields : List (String × Json)) : Prop :=
  ∀ key : Key, (Json.valuesOf key.name fields).length ≤ 1 ∧
    ∀ value, (key.name, value) ∈ fields → key.Valid value

/-- The settings have what is given in the fields, and the defaults elsewhere. -/
def Combines (fields : List (String × Json)) (settings : Settings) : Prop :=
  ∀ key : Key, (∀ value, (key.name, value) ∈ fields → key.Holds settings value) ∧
    (key.name ∉ fields.map Prod.fst → key.Agrees settings default)

/-- What is read of one field: the value that is given, or the default. -/
def Key.Reads (settings : Settings) (given : Option Json) : Key → Prop
  | .settleDelay => fieldOr Json.toRanged? default.settleDelay given = some settings.settleDelay
  | .overlayDuration => fieldOr Json.toRanged? default.overlayDuration given = some settings.overlayDuration
  | .labelResolution =>
    fieldOr LabelResolution.ofJson? default.labelResolution given = some settings.labelResolution
  | .strictTerminators => fieldOr Json.toBool? default.strictTerminators given = some settings.strictTerminators
  | .setArithmetic => fieldOr Json.toBool? default.setArithmetic given = some settings.setArithmetic
  | .maxCallDepth => fieldOr Json.toRanged? default.maxCallDepth given = some settings.maxCallDepth

variable {fields : List (String × Json)} {settings : Settings}

/-- An absent field is read as the default. -/
theorem Key.reads_none (key : Key) : key.Reads settings none ↔ key.Agrees settings default := by
  cases key <;> exact Option.some_inj.trans eq_comm

/-- A field that is given is read as what its value stands for. -/
theorem Key.reads_some (key : Key) (value : Json) : key.Reads settings (some value) ↔ key.Holds settings value := by
  cases key with
  | settleDelay | overlayDuration | maxCallDepth => exact Json.toRanged?_eq_some_iff
  | labelResolution => exact LabelResolution.ofJson?_eq_some_iff
  | strictTerminators | setArithmetic => exact Json.toBool?_eq_some_iff

/-- A record is read as settings if each field is given once at most and is read as what they have there. -/
theorem ofJson?_record :
    ofJson? (.record fields) = some settings ↔
      ∀ key : Key, (Json.valuesOf key.name fields).length ≤ 1 ∧
        key.Reads settings (Json.valuesOf key.name fields).getLast? := by
  rw [ofJson?, Json.toRecord?_eq]
  by_cases hone : ∀ name ∈ fieldNames, (Json.valuesOf name fields).length ≤ 1
  · rw [if_pos hone]
    simp only [fieldNames, List.map_cons, List.map_nil, Option.bind_eq_bind, Option.bind_eq_some_iff,
      Option.pure_def, Option.some.injEq]
    constructor
    · rintro ⟨settle, hsettle, overlay, hoverlay, labels, hlabels, strict, hstrict, arithmetic, harithmetic, depth,
        hdepth, rfl⟩ key
      refine ⟨hone key.name (List.mem_map_of_mem key.mem_all), ?_⟩
      cases key <;> assumption
    · intro h
      exact ⟨_, (h .settleDelay).2, _, (h .overlayDuration).2, _, (h .labelResolution).2, _,
        (h .strictTerminators).2, _, (h .setArithmetic).2, _, (h .maxCallDepth).2, rfl⟩
  · rw [if_neg hone]
    constructor
    · nofun
    · intro h
      refine absurd (fun name hname => ?_) hone
      rw [Key.fieldNames_eq] at hname
      obtain ⟨key, _, rfl⟩ := List.mem_map.mp hname
      exact (h key).1

/-- What is read of one field, once it is given once at most. -/
theorem Key.reads_iff (key : Key) (hone : (Json.valuesOf key.name fields).length ≤ 1) :
    key.Reads settings (Json.valuesOf key.name fields).getLast? ↔
      (∀ value, (key.name, value) ∈ fields → key.Holds settings value) ∧
        (key.name ∉ fields.map Prod.fst → key.Agrees settings default) := by
  simp only [← Json.mem_valuesOf, ← Json.valuesOf_eq_nil]
  generalize Json.valuesOf key.name fields = values at hone
  match values with
  | [] => simp [reads_none]
  | [value] => simp [reads_some]
  | _ :: _ :: _ => exact absurd hone (by simp)

/-- A record is read as the settings that it gives, if it can be used. -/
theorem ofJson?_record_iff : ofJson? (.record fields) = some settings ↔ Usable fields ∧ Combines fields settings := by
  rw [ofJson?_record]
  constructor
  · intro h
    have hcombines : Combines fields settings := fun key => (key.reads_iff (h key).1).mp (h key).2
    exact ⟨fun key => ⟨(h key).1, fun value hvalue => ⟨settings, (hcombines key).1 value hvalue⟩⟩, hcombines⟩
  · rintro ⟨husable, hcombines⟩ key
    exact ⟨(husable key).1, (key.reads_iff (husable key).1).mpr (hcombines key)⟩

/-- Fields that can be used give settings. -/
theorem exists_combines (h : Usable fields) : ∃ settings, Combines fields settings := by
  have hkey (key : Key) : ∃ settings, (∀ value, (key.name, value) ∈ fields → key.Holds settings value) ∧
      (key.name ∉ fields.map Prod.fst → key.Agrees settings default) := by
    obtain ⟨hone, hvalid⟩ := h key
    simp only [← Json.mem_valuesOf, ← Json.valuesOf_eq_nil] at hvalid ⊢
    generalize Json.valuesOf key.name fields = values at hone hvalid ⊢
    match values with
    | [] => exact ⟨default, nofun, fun _ => by cases key <;> rfl⟩
    | [value] =>
      obtain ⟨settings, hholds⟩ := hvalid value (.head _)
      exact ⟨settings, List.forall_mem_singleton.mpr hholds, nofun⟩
    | _ :: _ :: _ => exact absurd hone (by simp)
  choose chosen hchosen using hkey
  refine ⟨⟨(chosen .settleDelay).settleDelay, (chosen .overlayDuration).overlayDuration,
    (chosen .labelResolution).labelResolution, (chosen .strictTerminators).strictTerminators,
    (chosen .setArithmetic).setArithmetic, (chosen .maxCallDepth).maxCallDepth⟩, fun key => ?_⟩
  cases key
  · exact hchosen .settleDelay
  · exact hchosen .overlayDuration
  · exact hchosen .labelResolution
  · exact hchosen .strictTerminators
  · exact hchosen .setArithmetic
  · exact hchosen .maxCallDepth

/-- The numbers in settings are written as JSON wants them. -/
theorem formed_toJson (settings : Settings) : settings.toJson.Formed := by
  simp [toJson, Json.record, Json.Formed, Json.FieldsFormed, Json.ofInt, NumberText.formed_ofInt]

/-- Settings are read back from what is written for them. -/
theorem ofJson?_toJson (settings : Settings) : ofJson? settings.toJson = some settings := by
  obtain ⟨settle, overlay, labels, strict, arithmetic, depth⟩ := settings
  have hfields := Json.toRecord?_record
    [("settle_delay_ms", .ofInt settle.val), ("overlay_duration_ms", .ofInt overlay.val),
      ("label_resolution", .string labels.name), ("strict_terminators", .bool strict),
      ("set_arithmetic", .bool arithmetic), ("max_call_depth", .ofInt depth.val)] (by simp)
  have hlabels : LabelResolution.ofJson? (.string labels.name) = some labels :=
    LabelResolution.ofJson?_eq_some_iff.mpr (.inl rfl)
  simp only [List.map_cons, List.map_nil] at hfields
  simp [ofJson?, toJson, fieldNames, hfields, fieldOr, hlabels, Json.toBool?, Json.toRanged?_ofInt]

/-- An object with a name that is no text gives no settings, whatever stands under that name. -/
theorem ofJson?_of_nameless {fields : List (Option String × Json)} (h : none ∈ fields.map Prod.fst) :
    ofJson? (.object fields) = none := by
  rw [ofJson?, Json.toRecord?_of_nameless h]

/-- A file is read as what its value stands for, and the defaults hold if that is nothing. -/
theorem read?_eq {text : String} {value : Json} (h : Json.read? text = some value) :
    read? text = ofJson? value ∧ readOrDefault (some text) = (ofJson? value).getD default := by
  rw [readOrDefault, Option.bind_some, read?, h]
  exact ⟨rfl, rfl⟩

/-- Settings files are read field by field. Settings are read back from what is written for them. An object
in which no known field stands twice and each known field has a valid value is read as settings, which have
the values that are given and the defaults elsewhere, whatever the order of the fields is and whatever other
fields there are. If a known field stands twice or has a value that is not valid, or if the name of any field
is no text, nothing is read, and the defaults hold. -/
theorem files_faithful :
    (∀ settings : Settings, read? settings.write = some settings) ∧
    (∀ {text : String} {fields : List (String × Json)}, Json.read? text = some (.record fields) →
      (Usable fields → ∃ settings, read? text = some settings ∧ readOrDefault (some text) = settings ∧
        Combines fields settings) ∧
      (¬ Usable fields → read? text = none ∧ readOrDefault (some text) = default)) ∧
    ∀ {text : String} {fields : List (Option String × Json)}, Json.read? text = some (.object fields) →
      none ∈ fields.map Prod.fst → read? text = none ∧ readOrDefault (some text) = default := by
  refine ⟨fun settings => ?_, fun {text fields} htext => ?_, fun {text fields} htext hnameless => ?_⟩
  · rw [read?, write, Json.read?_indented settings.formed_toJson]
    exact settings.ofJson?_toJson
  · obtain ⟨hread, hdefault⟩ := read?_eq htext
    rw [hread, hdefault]
    constructor
    · intro husable
      obtain ⟨settings, hcombines⟩ := exists_combines husable
      rw [ofJson?_record_iff.mpr ⟨husable, hcombines⟩]
      exact ⟨settings, rfl, rfl, hcombines⟩
    · intro hunusable
      have hnone : ofJson? (.record fields) = none :=
        Option.eq_none_iff_forall_ne_some.mpr fun settings hsome => hunusable (ofJson?_record_iff.mp hsome).1
      rw [hnone]
      exact ⟨rfl, rfl⟩
  · obtain ⟨hread, hdefault⟩ := read?_eq htext
    rw [hread, hdefault, ofJson?_of_nameless hnameless]
    exact ⟨rfl, rfl⟩

/-- Two of the fields, out of order, and one that is not known and whose value no reader could represent. -/
def twoGiven : List (String × Json) :=
  [("max_call_depth", .number ⟨false, ['7'], [], none⟩),
    ("note", .number ⟨false, ['1'], [], some (false, ['4', '0', '0'])⟩), ("strict_terminators", .bool false)]

/-- A valid field after a delay that is negative. -/
def negativeGiven : List (String × Json) :=
  [("settle_delay_ms", .number ⟨true, ['1'], [], none⟩), ("strict_terminators", .bool false)]

/-- A file that gives two fields, and one that is refused for a single value. -/
theorem files_faithful_two :
    Json.read? "\x7b\"max_call_depth\": 7,\n\"note\": 1e400,\"strict_terminators\":false\x7d" =
        some (.record twoGiven) ∧
      Usable twoGiven ∧
      read? "\x7b\"max_call_depth\": 7,\n\"note\": 1e400,\"strict_terminators\":false\x7d" =
        some { default with strictTerminators := false, maxCallDepth := ⟨7, by decide, by decide⟩ } ∧
      Json.read? "\x7b\"settle_delay_ms\":-1,\"strict_terminators\":false\x7d" =
        some (.record negativeGiven) ∧
      ¬ Usable negativeGiven ∧
      readOrDefault (some "\x7b\"settle_delay_ms\":-1,\"strict_terminators\":false\x7d") = default := by
  have htwo : Json.read? "\x7b\"max_call_depth\": 7,\n\"note\": 1e400,\"strict_terminators\":false\x7d" =
      some (.record twoGiven) := rfl
  have hnegative : Json.read? "\x7b\"settle_delay_ms\":-1,\"strict_terminators\":false\x7d" =
      some (.record negativeGiven) := rfl
  have hgiven : ofJson? (.record twoGiven) =
      some { default with strictTerminators := false, maxCallDepth := ⟨7, by decide, by decide⟩ } := by
    decide +kernel
  have hrefused : ofJson? (.record negativeGiven) = none := by decide +kernel
  have husable : Usable twoGiven := (ofJson?_record_iff.mp hgiven).1
  have hunusable : ¬ Usable negativeGiven := by
    intro h
    obtain ⟨settings, hcombines⟩ := exists_combines h
    rw [ofJson?_record_iff.mpr ⟨h, hcombines⟩] at hrefused
    cases hrefused
  obtain ⟨settings, hread, _, hcombines⟩ := (files_faithful.2.1 htwo).1 husable
  rw [ofJson?_record_iff.mpr ⟨husable, hcombines⟩] at hgiven
  exact ⟨htwo, husable, hread.trans hgiven, hnegative, hunusable, ((files_faithful.2.1 hnegative).2 hunusable).2⟩

/-- A field that is not known is not always skipped: its name must be a text. -/
theorem nameless_field_refused :
    read? "\x7b\"strict_terminators\":false,\"note\":1\x7d" = some { default with strictTerminators := false } ∧
      Json.read? "\x7b\"strict_terminators\":false,\"\\ud800\":1\x7d" =
        some (.object [(some "strict_terminators", .bool false), (none, .number ⟨false, ['1'], [], none⟩)]) ∧
      read? "\x7b\"strict_terminators\":false,\"\\ud800\":1\x7d" = none :=
  ⟨by decide +kernel, rfl, rfl⟩

end Settings

end TouchScript
