import Mathlib.Data.List.TakeWhile
import TouchScript.Proofs.Text.Cut
import TouchScript.Text.Lowercase

namespace TouchScript

namespace Chars

/-- A text that is nothing but blanks. -/
def IsBlank (s : List Char) : Prop :=
  ∀ c ∈ s, isBlank c = true

instance : DecidablePred IsBlank :=
  fun s => decidable_of_iff (s.all isBlank) List.all_eq_true

variable {s t blanks : List Char}

/-- Blanks after a text are trimmed away. -/
theorem trim_append_blanks (hblanks : IsBlank blanks) (s : List Char) : trim (s ++ blanks) = trim s := by
  have hreverse : IsBlank blanks.reverse := fun c hc => hblanks c (List.mem_reverse.mp hc)
  rw [trim, trim, trimStart, List.dropWhile_append]
  split
  next hnone =>
    have hleft : s.dropWhile isBlank = [] := List.isEmpty_iff.mp hnone
    have hright : blanks.dropWhile isBlank = [] := List.dropWhile_eq_nil_iff.mpr hblanks
    rw [trimStart, hleft, hright]
  next =>
    rw [trimEnd, List.reverse_append, List.dropWhile_append_of_pos hreverse]
    rfl

/-- What is dropped from the start of a text is nothing but blanks. -/
theorem trimStart_append (s : List Char) : ∃ blanks, IsBlank blanks ∧ s = blanks ++ trimStart s :=
  ⟨s.takeWhile isBlank, fun _ => List.mem_takeWhile_imp, List.takeWhile_append_dropWhile.symm⟩

/-- What is dropped from the end of a text is nothing but blanks. -/
theorem trimEnd_append (s : List Char) : ∃ blanks, IsBlank blanks ∧ s = trimEnd s ++ blanks := by
  obtain ⟨blanks, hblanks, hs⟩ := trimStart_append s.reverse
  refine ⟨blanks.reverse, fun c hc => hblanks c (List.mem_reverse.mp hc), ?_⟩
  rw [trimEnd, ← trimStart, ← List.reverse_append, ← hs, List.reverse_reverse]

/-- Blanks in front of a text add nothing to its words. -/
theorem words_append_of_isBlank (hs : IsBlank s) (t : List Char) : words (s ++ t) = words t := by
  induction s with
  | nil => rfl
  | cons c rest ih =>
    obtain ⟨hc, hrest⟩ := List.forall_mem_cons.mp hs
    have hcut := words_append_cons [] (rest ++ t) hc
    rw [ih hrest] at hcut
    exact hcut

/-- Blanks between two texts keep their words apart. -/
theorem words_append_gap (hne : blanks ≠ []) (hblanks : IsBlank blanks) (s t : List Char) :
    words (s ++ (blanks ++ t)) = words s ++ words t := by
  obtain ⟨c, rest, rfl⟩ := List.exists_cons_of_ne_nil hne
  obtain ⟨hc, hrest⟩ := List.forall_mem_cons.mp hblanks
  rw [List.cons_append, words_append_cons s (rest ++ t) hc, words_append_of_isBlank hrest]

/-- Blanks behind a text add nothing to its words. -/
theorem words_append_blanks (hblanks : IsBlank blanks) (s : List Char) : words (s ++ blanks) = words s := by
  by_cases hne : blanks = []
  · rw [hne, List.append_nil]
  · have hgap := words_append_gap hne hblanks s []
    rw [List.append_nil] at hgap
    rw [hgap]
    exact List.append_nil _

/-- Trimming keeps the words of a text. -/
theorem words_trim (s : List Char) : words (trim s) = words s := by
  obtain ⟨before, hbefore, hs⟩ := trimStart_append s
  obtain ⟨after, hafter, hend⟩ := trimEnd_append (trimStart s)
  rw [trim, ← words_append_blanks hafter, ← hend, ← words_append_of_isBlank hbefore, ← hs]

/-- A text that has lost the blanks at its end already is trimmed to the same. -/
theorem trim_trimEnd (s : List Char) : trim (trimEnd s) = trim s := by
  obtain ⟨blanks, hblanks, hs⟩ := trimEnd_append s
  rw [← trim_append_blanks hblanks, ← hs]

/-- Trimming leaves the word at the start of a text alone. -/
theorem trim_word_append (hne : s ≠ []) (hword : ∀ c ∈ s, isBlank c = false) (t : List Char) :
    trim (s ++ t) = s ++ trimEnd t := by
  obtain ⟨⟨first, hhead, hfirst⟩, last, hlast, hblank⟩ := trimmed_of_noBlank hne hword
  have hstart : trimStart (s ++ t) = s ++ t :=
    trimStart_of_head? (by rw [List.head?_append, hhead, Option.some_or]) hfirst
  rw [trim, hstart, trimEnd, List.reverse_append, List.dropWhile_append]
  split
  next hnone =>
    have hend : trimEnd t = [] := by rw [trimEnd, List.isEmpty_iff.mp hnone, List.reverse_nil]
    rw [hend, List.append_nil]
    exact trimEnd_of_getLast? hlast hblank
  next => rw [List.reverse_append, List.reverse_reverse, trimEnd]

/-- After a word there is a blank or nothing. -/
def EndsWord (s : List Char) : Prop :=
  ∀ c ∈ s.head?, isBlank c = true

theorem endsWord_nil : EndsWord [] :=
  fun c hc => absurd hc (Option.not_mem_none c)

/-- Dropping the blanks at the end leaves a blank in front, or nothing at all. -/
theorem EndsWord.trimEnd (h : EndsWord s) : EndsWord (trimEnd s) := by
  intro c hc
  obtain ⟨rest, hrest⟩ := List.head?_eq_some_iff.mp hc
  obtain ⟨after, hafter⟩ := trimEnd_initial s
  refine h c ?_
  rw [← hafter, hrest]
  rfl

/-- A word ends before a gap, whatever comes behind the gap. -/
theorem endsWord_append (hne : blanks ≠ []) (hblanks : IsBlank blanks) (s : List Char) :
    EndsWord (blanks ++ s) := by
  obtain ⟨c, rest, rfl⟩ := List.exists_cons_of_ne_nil hne
  rintro _ ⟨⟩
  exact hblanks c (.head _)

/-- A word ends before two texts in a row if it ends before either: should the first be empty, the
second stands in its place. -/
theorem EndsWord.append (hs : EndsWord s) (ht : EndsWord t) : EndsWord (s ++ t) := by
  intro c hc
  rw [List.head?_append] at hc
  cases s with
  | nil => exact ht c hc
  | cons first rest => exact hs c hc

/-- A word that has ended comes before the words after it. -/
theorem words_word_append (hne : s ≠ []) (hword : ∀ c ∈ s, isBlank c = false) (ht : EndsWord t) :
    words (s ++ t) = s :: words t := by
  cases t with
  | nil =>
    rw [List.append_nil]
    exact words_of_noBlank hne hword
  | cons c rest =>
    have hc : isBlank c = true := ht c rfl
    rw [words_append_cons s rest hc, words_of_noBlank hne hword]
    exact congrArg (s :: ·) (words_append_cons [] rest hc).symm

/-- A text with words is blank up to the first one. -/
theorem exists_of_words_eq_cons {word : List Char} {others : List (List Char)} (h : words s = word :: others) :
    ∃ blanks rest, s = blanks ++ (word ++ rest) ∧ IsBlank blanks ∧ EndsWord rest ∧ words rest = others := by
  obtain ⟨blanks, hblanks, hs⟩ := trimStart_append s
  have hhead := List.head?_dropWhile_not isBlank s
  rw [← trimStart] at hhead
  rw [hs, words_append_of_isBlank hblanks] at h
  generalize trimStart s = inner at h hs hhead
  have hinner : inner = inner.takeWhile (fun c => !isBlank c) ++ inner.dropWhile fun c => !isBlank c :=
    List.takeWhile_append_dropWhile.symm
  have hword : ∀ c ∈ inner.takeWhile (fun c => !isBlank c), isBlank c = false := fun c hc => by
    simpa using List.mem_takeWhile_imp hc
  have hrest : EndsWord (inner.dropWhile fun c => !isBlank c) := by
    intro c hc
    have hstop := List.head?_dropWhile_not (fun c => !isBlank c) inner
    rw [hc] at hstop
    simpa using hstop
  have hne : inner.takeWhile (fun c => !isBlank c) ≠ [] := by
    cases inner with
    | nil => cases h
    | cons first rest =>
      have hfirst : isBlank first = false := hhead
      simp [hfirst]
  rw [hinner, words_word_append hne hword hrest] at h
  obtain ⟨hfirst, hothers⟩ := List.cons.inj h
  refine ⟨blanks, _, ?_, hblanks, hrest, hothers⟩
  rw [← hfirst, ← hinner]
  exact hs

/-- Lower case adds 32 to the codes of the ASCII capitals and changes no other character. -/
theorem toNat_toLower (c : Char) :
    c.toLower.toNat = if 65 ≤ c.toNat ∧ c.toNat ≤ 90 then c.toNat + 32 else c.toNat := by
  have hupper : (c.val ≥ 'A'.val ∧ c.val ≤ 'Z'.val) ↔ 65 ≤ c.toNat ∧ c.toNat ≤ 90 := by
    simp [UInt32.le_iff_toNat_le]
  unfold Char.toLower
  split
  next h =>
    rw [if_pos (hupper.mp h)]
    have hsmall := (hupper.mp h).2
    change (c.val + ('a'.val - 'A'.val)).toNat = _
    rw [UInt32.toNat_add]
    change (c.toNat + 32) % 4294967296 = _
    omega
  next h => rw [if_neg fun hrange => h (hupper.mpr hrange)]

/-- Characters whose lower case is the same are the same, or they are ASCII letters. -/
theorem eq_or_letters {c d : Char} (h : d.toLower = c.toLower) :
    d = c ∨ (65 ≤ d.toNat ∧ d.toNat ≤ 122) ∧ 65 ≤ c.toNat ∧ c.toNat ≤ 122 := by
  have hcode := congrArg Char.toNat h
  rw [toNat_toLower, toNat_toLower] at hcode
  by_cases hsame : d.toNat = c.toNat
  · exact .inl (Char.toNat_inj.mp hsame)
  · right
    split at hcode <;> split at hcode <;> omega

/-- Between the codes of the ASCII letters there is no blank. -/
theorem isBlank_of_letter {c : Char} (hlow : 65 ≤ c.toNat) (hhigh : c.toNat ≤ 122) : isBlank c = false := by
  simp only [isBlank, Bool.or_eq_false_iff, Bool.and_eq_false_iff, decide_eq_false_iff_not, beq_eq_false_iff_ne]
  omega

/-- In another case a word of ASCII characters stays a word of ASCII characters. -/
theorem forall_mem_of_toLower (hs : ∀ c ∈ s, isBlank c = false ∧ c.toNat < 0x80)
    (hcase : t.map Char.toLower = s.map Char.toLower) : ∀ d ∈ t, isBlank d = false ∧ d.toNat < 0x80 := by
  intro d hd
  have hlower : d.toLower ∈ s.map Char.toLower := by
    rw [← hcase]
    exact List.mem_map_of_mem hd
  obtain ⟨c, hc, hsame⟩ := List.mem_map.mp hlower
  rcases eq_or_letters hsame with rfl | ⟨_, hlow, hhigh⟩
  · exact hs c hc
  · exact ⟨isBlank_of_letter hlow hhigh, by omega⟩

/-- In another case a word starts with the same mark. -/
theorem head?_of_toLower (hcase : t.map Char.toLower = s.map Char.toLower) (h : s.head? = some '#') :
    t.head? = some '#' := by
  have hhead := congrArg List.head? hcase
  rw [List.head?_map, List.head?_map, h] at hhead
  obtain ⟨d, hd, hsame⟩ := Option.map_eq_some_iff.mp hhead
  rcases eq_or_letters hsame with rfl | ⟨_, hlow, _⟩
  · exact hd
  · exact absurd hlow (by decide)

/-- For ASCII characters lower case is taken one by one. -/
theorem lower_eq_map (h : ∀ c ∈ s, c.toNat < 0x80) : lower s = s.map Char.toLower := by
  suffices hfrom : ∀ before, lowerFrom before s = s.map Char.toLower from hfrom []
  induction s with
  | nil => exact fun _ => rfl
  | cons c rest ih =>
    obtain ⟨hc, hrest⟩ := List.forall_mem_cons.mp h
    intro before
    have hsigma : c ≠ capitalSigma := by
      rintro rfl
      exact absurd hc (by decide)
    have hdotted : c ≠ 'İ' := by
      rintro rfl
      exact absurd hc (by decide)
    rw [lowerFrom, lowerAt, if_neg hsigma, if_neg hdotted, lowerSimple, if_pos hc, ih hrest]
    rfl

end Chars

end TouchScript
