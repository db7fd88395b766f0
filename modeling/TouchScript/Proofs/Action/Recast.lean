import TouchScript.Proofs.Action.Codec
import TouchScript.Proofs.Json.Fields

namespace TouchScript

variable {value other : Json}

namespace Point

/-- The JSON of a point, given in another way. -/
def Recast : Json → Json → Prop :=
  Json.Recast ["x", "y"] fun _ => Eq

/-- A point is read alike in whatever order its fields are given, and among whatever others. -/
theorem Recast.ofJson?_eq (h : Recast value other) : ofJson? value = ofJson? other := by
  rw [ofJson?, ofJson?, h.toRecord?_eq]

/-- The JSON of a list of points, where each may be given in another way. -/
inductive ListRecast : Json → Json → Prop
  | refl (value : Json) : ListRecast value value
  | array {items others : List Json} (h : List.Forall₂ Recast items others) :
    ListRecast (.array items) (.array others)

/-- A list of points is read alike if its points are. -/
theorem ListRecast.listOfJson?_eq (h : ListRecast value other) : listOfJson? value = listOfJson? other := by
  cases h with
  | refl => rfl
  | @array items others h =>
    change items.mapM ofJson? = others.mapM ofJson?
    induction h with
    | nil => rfl
    | cons hpoint _ ih => rw [List.mapM_cons, List.mapM_cons, Recast.ofJson?_eq hpoint, ih]

end Point

namespace ImageMatch

/-- The JSON of a match, given in another way. -/
def Recast : Json → Json → Prop :=
  Json.Recast ["found", "x", "y", "confidence"] fun _ => Eq

/-- A match is read alike in whatever order its fields are given, and among whatever others. -/
theorem Recast.ofJson?_eq (h : Recast value other) : ofJson? value = ofJson? other := by
  rw [ofJson?, ofJson?, h.toRecord?_eq]

end ImageMatch

namespace Action

/-- The names of the arguments of each kind of action. -/
def argumentNames : Json → List String
  | .string "Tap" | .string "ThreeFingerTap" => ["at"]
  | .string "LongPress" => ["at", "duration_ms"]
  | .string "Swipe" => ["from", "to", "duration_ms"]
  | .string "Zoom" => ["center", "distance", "duration_ms", "direction"]
  | .string "MultiTap" => ["points"]
  | .string "ContinuousSwipe" => ["points", "duration_ms"]
  | .string "LogMessage" => ["text"]
  | .string "LogVariable" => ["name", "value"]
  | .string "Overlay" => ["text", "duration_ms"]
  | .string "FindTemplate" => ["path", "matched"]
  | _ => []

/-- The names that are known in an object with these fields: that of the kind, and those of the arguments
that this kind of action has. -/
def knownNames (fields : List (String × Json)) : List String :=
  "type" :: (Json.valuesOf "type" fields).flatMap argumentNames

/-- What may be given in another way in an argument of an action. -/
def ArgumentAlike (name : String) : Json → Json → Prop :=
  if name ∈ ["at", "from", "to", "center"] then Point.Recast
  else if name = "points" then Point.ListRecast
  else if name = "matched" then ImageMatch.Recast
  else Eq

/-- The JSON of an action, given in another way. -/
def Recast (value other : Json) : Prop :=
  ∃ fields others, value = .record fields ∧ other = .record others ∧
    Json.Rearranged (knownNames fields) ArgumentAlike fields others

/-- Can be kept until the kind of the action is known: all its parts have a meaning, and arrays and objects
are not nested too deeply. -/
def CanBeKept (value : Json) : Prop :=
  value.isMeaningful = true ∧ value.depth ≤ nestingLimit

instance (value : Json) : Decidable (CanBeKept value) :=
  inferInstanceAs (Decidable (_ ∧ _))

/-- What can be kept is read by its kind and its arguments. -/
theorem ofJson?_of_canBeKept (h : CanBeKept value) :
    ofJson? value = (splitKind? value).bind fun (kind, rest) => ofArguments? kind rest := by
  rw [ofJson?, ofJsonWithin?, h.1, decide_eq_true h.2]
  rfl

/-- What cannot be kept until its kind is known is no action, whatever its kind. -/
theorem ofJson?_of_not_canBeKept (h : ¬ CanBeKept value) : ofJson? value = none := by
  rw [ofJson?, ofJsonWithin?]
  exact if_neg (by simpa [CanBeKept] using h)

/-- The fields of an action but for its kind. -/
def withoutKind (fields : List (String × Json)) : List (String × Json) :=
  fields.filter fun field => field.1 != "type"

/-- The kind of an action is the one value under its name. -/
theorem splitKind?_eq (fields : List (String × Json)) :
    splitKind? (.record fields) =
      match Json.valuesOf "type" fields with
      | [.string kind] => some (kind, .record (withoutKind fields))
      | _ => none := by
  have hothers : (Json.named fields).filter (fun field => field.1 != some "type") =
      Json.named (withoutKind fields) := by
    rw [Json.named, List.filter_map]
    rfl
  rw [Json.record_eq, splitKind?, Json.filter_named_beq, Json.valuesOf, hothers]
  generalize (fields.filter fun field => field.1 == "type") = kinds
  cases kinds with
  | nil => rfl
  | cons field more =>
    obtain ⟨_, value⟩ := field
    cases more with
    | nil => cases value <;> rfl
    | cons _ _ => cases value <;> rfl

/-- Values are found for all of some names, or for none of them. -/
theorem mapM_id_map (found : String → Option Json) (names : List String) :
    (names.map found).mapM id =
      if ∀ name ∈ names, (found name).isSome then some (names.map fun name => (found name).getD .null) else none := by
  induction names with
  | nil => rfl
  | cons name rest ih =>
    rw [List.map_cons, List.mapM_cons, ih]
    cases hfound : found name with
    | none => simp [hfound]
    | some value =>
      by_cases hrest : ∀ name ∈ rest, (found name).isSome
      · rw [if_pos hrest, if_pos (List.forall_mem_cons.mpr ⟨by rw [hfound]; rfl, hrest⟩), List.map_cons, hfound]
        rfl
      · rw [if_neg hrest, if_neg fun hall => hrest (List.forall_mem_cons.mp hall).2]
        rfl

variable {fields others : List (String × Json)} {known names : List String}

/-- Wanted names other than that of the kind are found in an action as they are among its arguments. -/
theorem required?_withoutKind (htype : "type" ∉ names) (fields : List (String × Json)) :
    required? names (.record (withoutKind fields)) = required? names (.record fields) := by
  have hnames : ∀ name ∈ names, (name != "type") = true := fun name hname =>
    bne_iff_ne.mpr (ne_of_mem_of_not_mem hname htype)
  rw [required?, withoutKind, Json.toRecord?_filter (p := fun name => name != "type") hnames, ← required?]

/-- To compare what is read from the required fields of an action that is given in two ways, they may be
taken as missing from both or as alike one by one. -/
@[elab_as_elim]
theorem required?_cases {motive : Option (List Json) → Option (List Json) → Prop} (names : List String)
    (h : Json.Rearranged known ArgumentAlike fields others) (hnames : names ⊆ known) (htype : "type" ∉ names)
    (refused : motive none none)
    (given : ∀ found found' : String → Json, (∀ name ∈ names, ArgumentAlike name (found name) (found' name)) →
      motive (some (names.map found)) (some (names.map found'))) :
    motive (required? names (.record (withoutKind fields))) (required? names (.record (withoutKind others))) := by
  rw [required?_withoutKind htype, required?_withoutKind htype, required?, required?]
  rcases h.toRecord?_rel hnames with ⟨hnone, hnone'⟩ | ⟨found, found', hsome, hsome', hfound⟩
  · rw [hnone, hnone']
    exact refused
  · rw [hsome, hsome', Option.bind_some, Option.bind_some, mapM_id_map, mapM_id_map]
    have hboth : (∀ name ∈ names, (found' name).isSome) ↔ ∀ name ∈ names, (found name).isSome :=
      forall₂_congr fun name hname => by
        have hvalue := hfound name hname
        generalize found name = value, found' name = value' at hvalue ⊢
        cases hvalue <;> rfl
    by_cases hgiven : ∀ name ∈ names, (found name).isSome
    · rw [if_pos hgiven, if_pos (hboth.mpr hgiven)]
      refine given _ _ fun name hname => ?_
      have hvalue := hfound name hname
      have hsome := hgiven name hname
      generalize found name = value, found' name = value' at hvalue hsome ⊢
      cases hvalue with
      | none => cases hsome
      | some halike => exact halike
    · rw [if_neg hgiven, if_neg (mt hboth.mp hgiven)]
      exact refused

/-- The arguments of an action are read in the same way if they are given in another way. -/
theorem ofArguments?_eq {kind : String} (h : Json.Rearranged known ArgumentAlike fields others)
    (hnames : argumentNames (.string kind) ⊆ known) :
    ofArguments? kind (.record (withoutKind fields)) = ofArguments? kind (.record (withoutKind others)) := by
  unfold ofArguments?
  split
  · refine required?_cases ["at"] h hnames (by decide) rfl fun _ _ halike => ?_
    simp only [List.forall_mem_cons, List.map_cons, List.map_nil] at halike ⊢
    obtain ⟨hat, _⟩ := halike
    rw [Point.Recast.ofJson?_eq hat]
  · refine required?_cases ["at", "duration_ms"] h hnames (by decide) rfl fun _ _ halike => ?_
    simp only [List.forall_mem_cons, List.map_cons, List.map_nil] at halike ⊢
    obtain ⟨hat, (hduration : _ = _), _⟩ := halike
    rw [Point.Recast.ofJson?_eq hat, hduration]
  · refine required?_cases ["from", "to", "duration_ms"] h hnames (by decide) rfl fun _ _ halike => ?_
    simp only [List.forall_mem_cons, List.map_cons, List.map_nil] at halike ⊢
    obtain ⟨hfrom, hto, (hduration : _ = _), _⟩ := halike
    rw [Point.Recast.ofJson?_eq hfrom, Point.Recast.ofJson?_eq hto, hduration]
  · refine required?_cases ["at"] h hnames (by decide) rfl fun _ _ halike => ?_
    simp only [List.forall_mem_cons, List.map_cons, List.map_nil] at halike ⊢
    obtain ⟨hat, _⟩ := halike
    rw [Point.Recast.ofJson?_eq hat]
  · refine required?_cases ["center", "distance", "duration_ms", "direction"] h hnames (by decide) rfl
      fun _ _ halike => ?_
    simp only [List.forall_mem_cons, List.map_cons, List.map_nil] at halike ⊢
    obtain ⟨hcenter, (hdistance : _ = _), (hduration : _ = _), (hdirection : _ = _), _⟩ := halike
    rw [Point.Recast.ofJson?_eq hcenter, hdistance, hduration, hdirection]
  · refine required?_cases ["points"] h hnames (by decide) rfl fun _ _ halike => ?_
    simp only [List.forall_mem_cons, List.map_cons, List.map_nil] at halike ⊢
    obtain ⟨hpoints, _⟩ := halike
    rw [Point.ListRecast.listOfJson?_eq hpoints]
  · refine required?_cases ["points", "duration_ms"] h hnames (by decide) rfl fun _ _ halike => ?_
    simp only [List.forall_mem_cons, List.map_cons, List.map_nil] at halike ⊢
    obtain ⟨hpoints, (hduration : _ = _), _⟩ := halike
    rw [Point.ListRecast.listOfJson?_eq hpoints, hduration]
  · refine required?_cases ["text"] h hnames (by decide) rfl fun _ _ halike => ?_
    simp only [List.forall_mem_cons, List.map_cons, List.map_nil] at halike ⊢
    obtain ⟨(htext : _ = _), _⟩ := halike
    rw [htext]
  · refine required?_cases ["name", "value"] h hnames (by decide) rfl fun _ _ halike => ?_
    simp only [List.forall_mem_cons, List.map_cons, List.map_nil] at halike ⊢
    obtain ⟨(hname : _ = _), (hvalue : _ = _), _⟩ := halike
    rw [hname, hvalue]
  · refine required?_cases ["text", "duration_ms"] h hnames (by decide) rfl fun _ _ halike => ?_
    simp only [List.forall_mem_cons, List.map_cons, List.map_nil] at halike ⊢
    obtain ⟨(htext : _ = _), (hduration : _ = _), _⟩ := halike
    rw [htext, hduration]
  · refine required?_cases ["path", "matched"] h hnames (by decide) rfl fun _ _ halike => ?_
    simp only [List.forall_mem_cons, List.map_cons, List.map_nil] at halike ⊢
    obtain ⟨(hpath : _ = _), hmatched, _⟩ := halike
    rw [hpath, ImageMatch.Recast.ofJson?_eq hmatched]
  · rfl

/-- An action is read in the same way if it is given in another way, provided that both or neither can be
kept until the kind is known. -/
theorem Recast.ofJson?_eq (h : Recast value other) (hkept : CanBeKept value ↔ CanBeKept other) :
    ofJson? value = ofJson? other := by
  obtain ⟨fields, others, rfl, rfl, h⟩ := h
  by_cases hfields : CanBeKept (.record fields)
  · rw [ofJson?_of_canBeKept hfields, ofJson?_of_canBeKept (hkept.mp hfields), splitKind?_eq, splitKind?_eq]
    obtain ⟨middle, hperm, hkinds⟩ := h.values (List.mem_cons_self : "type" ∈ knownNames fields)
    have hsame : middle = Json.valuesOf "type" others := by
      rw [← List.forall₂_eq_eq_eq]
      exact hkinds
    have hread (kind : String) (hkind : Json.valuesOf "type" fields = [.string kind]) :
        ofArguments? kind (.record (withoutKind fields)) = ofArguments? kind (.record (withoutKind others)) := by
      apply ofArguments?_eq h
      rw [knownNames, hkind, List.flatMap_singleton]
      exact List.subset_cons_self _ _
    rw [hsame] at hperm
    generalize Json.valuesOf "type" fields = kinds, Json.valuesOf "type" others = kinds' at hperm hread ⊢
    match kinds with
    | [] =>
      obtain rfl := hperm.symm.eq_nil
      rfl
    | [kind] =>
      obtain rfl := hperm.symm.eq_singleton
      cases kind with
      | string kind => exact hread kind rfl
      | _ => rfl
    | kind :: next :: more =>
      match kinds', hperm.length_eq with
      | kind' :: next' :: more', _ => cases kind <;> cases kind' <;> rfl
  · rw [ofJson?_of_not_canBeKept hfields, ofJson?_of_not_canBeKept (mt hkept.mpr hfields)]

end Action

end TouchScript
