import TouchScript.Proofs.Json.Record

namespace TouchScript.Json

/-- The values that stand under a name, in order. -/
def valuesOf (name : String) (fields : List (String × Json)) : List Json :=
  (fields.filter fun field => field.1 == name).map Prod.snd

section Values

variable (name : String) (fields : List (String × Json))

/-- A value stands under a name exactly if the field is among the fields. -/
theorem mem_valuesOf {value : Json} : value ∈ valuesOf name fields ↔ (name, value) ∈ fields := by
  simp [valuesOf]

/-- Nothing stands under a name exactly if no field has it. -/
theorem valuesOf_eq_nil : valuesOf name fields = [] ↔ name ∉ fields.map Prod.fst := by
  simp [List.eq_nil_iff_forall_not_mem, mem_valuesOf]

/-- To look for the fields of a name before or after their names are marked as texts makes no
difference. -/
theorem filter_named_beq :
    (named fields).filter (fun entry => entry.1 == some name) =
      named (fields.filter fun field => field.1 == name) := by
  rw [named, List.filter_map]
  rfl

/-- A name stands as often in an object as there are values under it. -/
theorem count_named : ((named fields).map Prod.fst).count (some name) = (valuesOf name fields).length := by
  rw [List.count_eq_length_filter, List.filter_map, List.length_map]
  change ((named fields).filter fun entry => entry.1 == some name).length = _
  rw [filter_named_beq, valuesOf, named, List.length_map, List.length_map]

/-- The last value under a name is the one that is found. -/
theorem lookup?_eq : lookup? (named fields) name = (valuesOf name fields).getLast? := by
  change ((named fields).reverse.find? fun entry => entry.1 == some name).map Prod.snd = _
  rw [← List.getLast?_filter, filter_named_beq, valuesOf, List.getLast?_map, named, List.getLast?_map]
  cases (fields.filter fun field => field.1 == name).getLast? <;> rfl

/-- Taking out fields with other names keeps the values under a name. -/
theorem valuesOf_filter {p : String → Bool} (hname : p name = true) :
    valuesOf name (fields.filter fun field => p field.1) = valuesOf name fields := by
  rw [valuesOf, List.filter_filter, valuesOf]
  apply congrArg (List.map Prod.snd)
  apply List.filter_congr
  intro field _
  by_cases hsame : field.1 = name
  · simp [hsame, hname]
  · simp [hsame]

end Values

/-- A record is given by the values under its names, of which there may be one each. -/
theorem toRecord?_eq (names : List String) (fields : List (String × Json)) :
    (record fields).toRecord? names =
      if ∀ name ∈ names, (valuesOf name fields).length ≤ 1 then
        some (names.map fun name => (valuesOf name fields).getLast?)
      else none := by
  have hnone : ((named fields).map Prod.fst).contains none = false := by simp [named]
  have hvalues : names.map (lookup? (named fields)) = names.map fun name => (valuesOf name fields).getLast? :=
    List.map_congr_left fun name _ => lookup?_eq name fields
  rw [record_eq, toRecord?]
  simp only [hnone, Bool.false_or, count_named, hvalues]
  by_cases hone : ∀ name ∈ names, (valuesOf name fields).length ≤ 1
  · have hany : (names.any fun name => decide (1 < (valuesOf name fields).length)) = false :=
      List.any_eq_false.mpr fun name hname => by simpa using hone name hname
    rw [if_pos hone, hany]
    rfl
  · have hany : (names.any fun name => decide (1 < (valuesOf name fields).length)) = true := by
      simpa using hone
    rw [if_neg hone, hany]
    rfl

/-- An object with a name that is no text is no record. -/
theorem toRecord?_of_nameless {fields : List (Option String × Json)} (h : none ∈ fields.map Prod.fst)
    (names : List String) : (object fields).toRecord? names = none := by
  rw [toRecord?, List.contains_iff_mem.mpr h]
  rfl

/-- Taking out fields with other names changes nothing. -/
theorem toRecord?_filter {p : String → Bool} {names : List String} (hnames : ∀ name ∈ names, p name = true)
    (fields : List (String × Json)) :
    (record (fields.filter fun field => p field.1)).toRecord? names = (record fields).toRecord? names := by
  have hvalues (name : String) (hname : name ∈ names) :
      valuesOf name (fields.filter fun field => p field.1) = valuesOf name fields :=
    valuesOf_filter name fields (hnames name hname)
  rw [toRecord?_eq, toRecord?_eq]
  congr 1
  · exact propext (forall₂_congr fun name hname => by rw [hvalues name hname])
  · exact congrArg some (List.map_congr_left fun name hname => by rw [hvalues name hname])

/-- The fields with known names are the same, up to their order and up to what is alike under each name. -/
def Rearranged (known : List String) (alike : String → Json → Json → Prop)
    (fields others : List (String × Json)) : Prop :=
  ∃ middle, (fields.filter fun field => field.1 ∈ known).Perm middle ∧
    List.Forall₂ (fun field other => field.1 = other.1 ∧ alike field.1 field.2 other.2) middle
      (others.filter fun other => other.1 ∈ known)

namespace Rearranged

variable {known names : List String} {alike : String → Json → Json → Prop}
  {fields others : List (String × Json)} {name : String}

/-- Fields that are alike one by one have values that are alike one by one. -/
theorem forall₂_valuesOf (h : List.Forall₂ (fun field other => field.1 = other.1 ∧ alike field.1 field.2 other.2)
    fields others) (name : String) : List.Forall₂ (alike name) (valuesOf name fields) (valuesOf name others) := by
  induction h with
  | nil => exact .nil
  | @cons field other _ _ hpair _ ih =>
    obtain ⟨hsame, hvalue⟩ := hpair
    unfold valuesOf at ih ⊢
    by_cases hname : field.1 = name
    · rw [List.filter_cons_of_pos (by simpa using hname), List.filter_cons_of_pos (by simpa [← hsame] using hname)]
      rw [hname] at hvalue
      exact .cons hvalue ih
    · rw [List.filter_cons_of_neg (by simpa using hname), List.filter_cons_of_neg (by simpa [← hsame] using hname)]
      exact ih

/-- Under a known name stand the same values. -/
theorem values (h : Rearranged known alike fields others) (hname : name ∈ known) :
    ∃ middle, (valuesOf name fields).Perm middle ∧ List.Forall₂ (alike name) middle (valuesOf name others) := by
  obtain ⟨middle, hperm, hpairs⟩ := h
  have hknown (fields : List (String × Json)) :
      valuesOf name (fields.filter fun field => field.1 ∈ known) = valuesOf name fields :=
    valuesOf_filter (p := fun name => decide (name ∈ known)) name fields (decide_eq_true hname)
  refine ⟨valuesOf name middle, ?_, ?_⟩
  · rw [← hknown fields]
    exact (hperm.filter _).map _
  · rw [← hknown others]
    exact forall₂_valuesOf hpairs name

/-- However the fields are rearranged, as many values stand under a known name. -/
theorem length_eq (h : Rearranged known alike fields others) (hname : name ∈ known) :
    (valuesOf name fields).length = (valuesOf name others).length := by
  obtain ⟨middle, hperm, hpairs⟩ := h.values hname
  exact hperm.length_eq.trans hpairs.length_eq

/-- A value that stands alone under a known name is found in both. -/
theorem rel_getLast? (h : Rearranged known alike fields others) (hname : name ∈ known)
    (hone : (valuesOf name fields).length ≤ 1) :
    Option.Rel (alike name) (valuesOf name fields).getLast? (valuesOf name others).getLast? := by
  obtain ⟨middle, hperm, hpairs⟩ := h.values hname
  generalize valuesOf name fields = before, valuesOf name others = after at hone hperm hpairs ⊢
  match before with
  | [] =>
    obtain rfl := hperm.symm.eq_nil
    cases hpairs
    exact .none
  | [value] =>
    obtain rfl := hperm.symm.eq_singleton
    cases hpairs with
    | cons hvalue hrest =>
      cases hrest
      exact .some hvalue
  | _ :: _ :: _ => exact absurd hone (by simp)

/-- A record is read in the same way when its fields are rearranged. -/
theorem toRecord?_rel (h : Rearranged known alike fields others) (hnames : names ⊆ known) :
    (record fields).toRecord? names = none ∧ (record others).toRecord? names = none ∨
      ∃ found found' : String → Option Json, (record fields).toRecord? names = some (names.map found) ∧
        (record others).toRecord? names = some (names.map found') ∧
        ∀ name ∈ names, Option.Rel (alike name) (found name) (found' name) := by
  rw [toRecord?_eq, toRecord?_eq]
  have hsame : (∀ name ∈ names, (valuesOf name others).length ≤ 1) ↔
      ∀ name ∈ names, (valuesOf name fields).length ≤ 1 :=
    forall₂_congr fun name hname => by rw [h.length_eq (hnames hname)]
  by_cases hone : ∀ name ∈ names, (valuesOf name fields).length ≤ 1
  · rw [if_pos hone, if_pos (hsame.mpr hone)]
    exact .inr ⟨_, _, rfl, rfl, fun name hname => h.rel_getLast? (hnames hname) (hone name hname)⟩
  · rw [if_neg hone, if_neg (mt hsame.mp hone)]
    exact .inl ⟨rfl, rfl⟩

/-- A record with the same fields in another order, and other unknown fields, is the same. -/
theorem toRecord?_eq_of_rearranged (h : Rearranged known (fun _ => Eq) fields others) :
    (record fields).toRecord? known = (record others).toRecord? known := by
  rcases h.toRecord?_rel (List.Subset.refl known) with ⟨hnone, hnone'⟩ | ⟨found, found', hsome, hsome', hfound⟩
  · rw [hnone, hnone']
  · rw [hsome, hsome']
    apply congrArg some
    apply List.map_congr_left
    intro name hname
    have hrel := hfound name hname
    generalize found name = value, found' name = value' at hrel ⊢
    cases hrel with
    | none => rfl
    | some hvalue => rw [hvalue]

end Rearranged

/-- A value is given in another way: as an object whose known fields are alike, in any order, and whose other
fields are any. -/
inductive Recast (known : List String) (alike : String → Json → Json → Prop) : Json → Json → Prop
  | refl (value : Json) : Recast known alike value value
  | record {fields others : List (String × Json)} (h : Rearranged known alike fields others) :
    Recast known alike (record fields) (record others)

/-- A record is read alike in whatever order its known fields are given, and whatever others there
are: what is read depends on the values under the known names alone. -/
theorem Recast.toRecord?_eq {known : List String} {value other : Json}
    (h : Recast known (fun _ => Eq) value other) : value.toRecord? known = other.toRecord? known := by
  cases h with
  | refl => rfl
  | record h => exact h.toRecord?_eq_of_rearranged

end TouchScript.Json
