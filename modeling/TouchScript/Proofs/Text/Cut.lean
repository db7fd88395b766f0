import TouchScript.Proofs.Text.Pieces

namespace TouchScript

namespace Chars

variable {mark s t : List Char} {c : Char}

/-- A mark that begins before a character it does not have ends before it as well. -/
theorem initial_of_not_mem (hc : c ∉ mark) (hmark : mark <+: s ++ c :: t) : mark <+: s := by
  rcases List.prefix_or_prefix_of_prefix hmark (List.prefix_append s (c :: t)) with hinside | hover
  · exact hinside
  · obtain ⟨more, rfl⟩ := hover
    have hmore : more <+: c :: t := (List.prefix_append_right_inj s).mp hmark
    rcases List.prefix_cons_iff.mp hmore with rfl | ⟨rest, rfl, _⟩
    · simp
    · simp at hc

/-- A mark never reaches across a character that it does not have. So what stands before such a
character is passed over, unless the mark occurs in it. -/
theorem cutAt_append_cons (hne : mark ≠ []) (hc : c ∉ mark) (hs : ¬ mark <:+: s) :
    cutAt mark (s ++ c :: t) = (cutAt mark t).map fun p => (s ++ c :: p.1, p.2) := by
  have hnot (more : List Char) (hmore : ¬ mark <+: more) :
      mark.isPrefixOf (more ++ c :: t) = false := by
    refine Bool.eq_false_iff.mpr fun hmark => hmore ?_
    exact initial_of_not_mem hc (List.isPrefixOf_iff_prefix.mp hmark)
  induction s with
  | nil =>
    have hhead := hnot [] (by simpa using hne)
    rw [List.nil_append] at hhead ⊢
    rw [cutAt, hhead]
    rfl
  | cons first rest ih =>
    have hhead := hnot (first :: rest) fun hmark => hs hmark.isInfix
    have hrest : ¬ mark <:+: rest := fun hmark => hs (List.infix_cons_iff.mpr (.inr hmark))
    rw [List.cons_append] at hhead ⊢
    rw [cutAt, hhead, ih hrest]
    cases cutAt mark t <;> rfl

/-- A mark at the start of a text is where the text is cut. -/
theorem cutAt_append (hne : mark ≠ []) (t : List Char) : cutAt mark (mark ++ t) = some ([], t) := by
  obtain ⟨first, rest, rfl⟩ := List.exists_cons_of_ne_nil hne
  have hhead : (first :: rest).isPrefixOf (first :: (rest ++ t)) = true :=
    List.isPrefixOf_iff_prefix.mpr (List.prefix_append _ t)
  rw [List.cons_append, cutAt, hhead]
  simp

/-- A text in which the mark does not occur is not cut. -/
theorem cutAt_eq_none (hne : mark ≠ []) (hs : ¬ mark <:+: s) : cutAt mark s = none := by
  induction s with
  | nil => simp [cutAt, hne]
  | cons first rest ih =>
    have hhead : mark.isPrefixOf (first :: rest) = false :=
      Bool.eq_false_iff.mpr fun hmark => hs (List.isPrefixOf_iff_prefix.mp hmark).isInfix
    rw [cutAt, hhead, ih fun hmark => hs (List.infix_cons_iff.mpr (.inr hmark))]
    rfl

/-- A character that a mark has more often than a text keeps the mark from occurring in the text. -/
theorem not_infix_of_count_lt (c : Char) (hcount : s.count c < mark.count c) : ¬ mark <:+: s :=
  fun hmark => Nat.not_le.mpr hcount (hmark.sublist.count_le c)

/-- What does not have the first character of a mark is passed over. -/
theorem cutAt_append_of_not_mem (hc : c ∉ s) (rest t : List Char) :
    cutAt (c :: rest) (s ++ t) = (cutAt (c :: rest) t).map fun p => (s ++ p.1, p.2) := by
  induction s with
  | nil => simp
  | cons first more ih =>
    obtain ⟨hfirst, hmore⟩ := List.ne_and_not_mem_of_not_mem_cons hc
    have hhead : (c :: rest).isPrefixOf (first :: (more ++ t)) = false := by
      simp [List.isPrefixOf, hfirst]
    rw [List.cons_append, cutAt, hhead, ih hmore]
    cases cutAt (c :: rest) t <;> rfl

/-- Blanks after a text without blanks at its ends are trimmed away. -/
theorem Trimmed.trim_append (hs : Trimmed s) (ht : ∀ c ∈ t, isBlank c = true) : trim (s ++ t) = s := by
  obtain ⟨⟨first, hfirst, hfirstBlank⟩, last, hlast, hlastBlank⟩ := hs
  have hstart : trimStart (s ++ t) = s ++ t :=
    trimStart_of_head? (by rw [List.head?_append, hfirst, Option.some_or]) hfirstBlank
  have hend : trimEnd (s ++ t) = trimEnd s := by
    have hblank : ∀ c ∈ t.reverse, isBlank c = true := fun c hc => ht c (List.mem_reverse.mp hc)
    rw [trimEnd, List.reverse_append, List.dropWhile_append_of_pos hblank, trimEnd]
  rw [trim, hstart, hend, trimEnd_of_getLast? hlast hlastBlank]

/-- Blanks before a text are trimmed away. -/
theorem trim_append_of_blank (hs : ∀ c ∈ s, isBlank c = true) (t : List Char) : trim (s ++ t) = trim t := by
  rw [trim, trim, trimStart, List.dropWhile_append_of_pos hs, trimStart]

end Chars

namespace Text

/-- The text `mark` occurs somewhere in `s`. -/
def Occurs (mark s : String) : Prop :=
  mark.toList <:+: s.toList

instance (mark s : String) : Decidable (Occurs mark s) :=
  inferInstanceAs (Decidable (mark.toList <:+: s.toList))

variable {mark a b : String}

/-- A mark between two spaces has on its sides what is written there, if it does not occur on the left. -/
theorem sidesOf_spaced (hmark : IsToken mark) (ha : Chars.Trimmed a.toList) (hb : Chars.Trimmed b.toList)
    (hnone : ¬ Occurs mark a) : sidesOf mark (a ++ " " ++ mark ++ " " ++ b) = some (a, b) := by
  have hne : mark.toList ≠ [] := by simpa using hmark.1
  have hspace : ' ' ∉ mark.toList := fun hmem => by cases hmark.2 _ hmem
  have htext : (a ++ " " ++ mark ++ " " ++ b).toList =
      a.toList ++ ' ' :: (mark.toList ++ ' ' :: b.toList) := by
    simp
  rw [sidesOf, htext, Chars.cutAt_append_cons hne hspace hnone, Chars.cutAt_append hne]
  have hblank : ∀ c ∈ [' '], Chars.isBlank c = true := by simp [Chars.isBlank]
  simp [ha.trim_append hblank, Chars.trim_cons_of_blank (hblank ' ' (.head _)), hb.trim_eq]

/-- A mark that occurs in none of three texts does not occur where they stand between spaces. -/
theorem sidesOf_eq_none {other : String} (hmark : IsToken mark) (ha : ¬ Occurs mark a)
    (hother : ¬ Occurs mark other) (hb : ¬ Occurs mark b) :
    sidesOf mark (a ++ " " ++ other ++ " " ++ b) = none := by
  have hne : mark.toList ≠ [] := by simpa using hmark.1
  have hspace : ' ' ∉ mark.toList := fun hmem => by cases hmark.2 _ hmem
  have htext : (a ++ " " ++ other ++ " " ++ b).toList =
      a.toList ++ ' ' :: (other.toList ++ ' ' :: b.toList) := by
    simp
  rw [sidesOf, htext, Chars.cutAt_append_cons hne hspace ha, Chars.cutAt_append_cons hne hspace hother,
    Chars.cutAt_eq_none hne hb]
  rfl

end Text

end TouchScript
