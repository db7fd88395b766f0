import TouchScript.Text.Blank

namespace TouchScript

namespace Chars

/-- Starts and ends with a character that is not blank. -/
def Trimmed (s : List Char) : Prop :=
  (∃ c, s.head? = some c ∧ isBlank c = false) ∧ ∃ c, s.getLast? = some c ∧ isBlank c = false

/-- Nothing is dropped from the start of a text whose first character is not a blank. -/
theorem trimStart_of_head? {s : List Char} {c : Char} (hhead : s.head? = some c)
    (hblank : isBlank c = false) : trimStart s = s := by
  cases s with
  | nil => cases hhead
  | cons first rest =>
    cases hhead
    simp [trimStart, hblank]

/-- If nothing is dropped from the start of a text, its first character, if it has one, is not a
blank. -/
theorem exists_head?_of_trimStart {s : List Char} (hne : s ≠ []) (htrim : trimStart s = s) :
    ∃ c, s.head? = some c ∧ isBlank c = false := by
  obtain ⟨first, rest, rfl⟩ := List.exists_cons_of_ne_nil hne
  have hfirst := List.head?_dropWhile_not isBlank (first :: rest)
  rw [← trimStart, htrim] at hfirst
  exact ⟨first, rfl, hfirst⟩

/-- Nothing is dropped from the end of a text whose last character is not a blank. -/
theorem trimEnd_of_getLast? {s : List Char} {c : Char} (hlast : s.getLast? = some c)
    (hblank : isBlank c = false) : trimEnd s = s := by
  have hreverse : trimStart s.reverse = s.reverse :=
    trimStart_of_head? (by rw [List.head?_reverse, hlast]) hblank
  rw [trimStart] at hreverse
  rw [trimEnd, hreverse, List.reverse_reverse]

namespace Trimmed

variable {s t : List Char}

theorem ne_nil (h : Trimmed s) : s ≠ [] := by
  rintro rfl
  obtain ⟨⟨c, hc, _⟩, _⟩ := h
  cases hc

/-- A text without blanks at its ends is kept by trimming. -/
theorem trim_eq (h : Trimmed s) : trim s = s := by
  obtain ⟨⟨first, hhead, hfirst⟩, last, hlast, hblank⟩ := h
  rw [trim, trimStart_of_head? hhead hfirst, trimEnd_of_getLast? hlast hblank]

/-- What is kept by trimming has no blanks at its ends, unless it is empty. -/
theorem of_trim_eq (hne : s ≠ []) (htrim : trim s = s) : Trimmed s := by
  have hstart : trimStart s = s := by
    have hend : (trimEnd (trimStart s)).length ≤ (trimStart s).length := by
      have hle := (List.dropWhile_suffix isBlank (l := (trimStart s).reverse)).length_le
      simpa [trimEnd] using hle
    have hsuffix : trimStart s <:+ s := List.dropWhile_suffix _
    rw [← trim, htrim] at hend
    exact hsuffix.eq_of_length_le hend
  have hend : trimStart s.reverse = s.reverse := by
    rw [trim, hstart, trimEnd] at htrim
    rw [trimStart, ← List.reverse_inj, htrim, List.reverse_reverse]
  have hlast := exists_head?_of_trimStart (by simpa using hne) hend
  rw [List.head?_reverse] at hlast
  exact ⟨exists_head?_of_trimStart hne hstart, hlast⟩

/-- Two such texts with anything between them. -/
theorem append (hs : Trimmed s) (ht : Trimmed t) (between : List Char) :
    Trimmed (s ++ (between ++ t)) := by
  obtain ⟨⟨first, hfirst, hblank⟩, _⟩ := hs
  obtain ⟨_, last, hlast, hlastBlank⟩ := ht
  refine ⟨⟨first, ?_, hblank⟩, last, ?_, hlastBlank⟩
  · rw [List.head?_append, hfirst, Option.some_or]
  · rw [List.getLast?_append, List.getLast?_append, hlast, Option.some_or, Option.some_or]

end Trimmed

/-- A blank in front of a text is trimmed away. -/
theorem trim_cons_of_blank {c : Char} (hblank : isBlank c = true) (s : List Char) :
    trim (c :: s) = trim s := by
  simp [trim, trimStart, hblank]

/-- A text without blanks has none at its ends. -/
theorem trimmed_of_noBlank {s : List Char} (hne : s ≠ []) (hblank : ∀ c ∈ s, isBlank c = false) :
    Trimmed s := by
  refine ⟨⟨s.head hne, List.head?_eq_some_head hne, hblank _ (List.head_mem hne)⟩, s.getLast hne, ?_,
    hblank _ (List.getLast_mem hne)⟩
  exact List.getLast?_eq_some_getLast hne

/-- A blank separates the words before it from the words after it. -/
theorem words_append_cons (s t : List Char) {c : Char} (hblank : isBlank c = true) :
    words (s ++ c :: t) = words s ++ words t := by
  rw [words, List.splitOnP_append_cons s t hblank, List.filter_append]
  rfl

/-- A text without blanks is one word. -/
theorem words_of_noBlank {s : List Char} (hne : s ≠ []) (hblank : ∀ c ∈ s, isBlank c = false) :
    words s = [s] := by
  rw [words, List.splitOnP_eq_singleton hblank]
  simp [hne]

/-- A line feed separates the line before it from the lines after it. -/
theorem lines_append_cons {s : List Char} (h : '\n' ∉ s) (t : List Char) :
    lines (s ++ '\n' :: t) = s :: lines t := by
  have hfeed : ∀ c ∈ s, (c == '\n') = false := fun c hc => beq_eq_false_iff_ne.mpr (ne_of_mem_of_not_mem hc h)
  exact List.splitOnP_append_cons_of_forall_mem hfeed '\n' rfl t

/-- A text without a line feed is one line. -/
theorem lines_eq_singleton {s : List Char} (h : '\n' ∉ s) : lines s = [s] :=
  List.splitOnP_eq_singleton fun _ hc => beq_eq_false_iff_ne.mpr (ne_of_mem_of_not_mem hc h)

/-- A word is followed by a blank or by nothing, so it is all that is taken up to the first blank. -/
theorem takeWhile_word {s t : List Char} (hword : ∀ c ∈ s, isBlank c = false)
    (hblank : ∀ c ∈ t.head?, isBlank c = true) :
    (s ++ t).takeWhile (fun c => !isBlank c) = s ∧ (s ++ t).dropWhile (fun c => !isBlank c) = t := by
  have hpos : ∀ c ∈ s, (!isBlank c) = true := by
    intro c hc
    simp [hword c hc]
  rw [List.takeWhile_append_of_pos hpos, List.dropWhile_append_of_pos hpos]
  cases t with
  | nil => simp
  | cons first rest => simp [hblank first rfl]

end Chars

namespace Text

/-- A word: not empty and without blanks. -/
def IsToken (s : String) : Prop :=
  s ≠ "" ∧ ∀ c ∈ s.toList, Chars.isBlank c = false

instance (s : String) : Decidable (IsToken s) :=
  decidable_of_iff (s ≠ "" ∧ s.toList.all (fun c => !Chars.isBlank c) = true) (by simp [IsToken])

/-- One or more words joined by single spaces. -/
def IsPhrase (s : String) : Prop :=
  ∃ tokens, tokens ≠ [] ∧ (∀ token ∈ tokens, IsToken token) ∧ s = join " " tokens

/-- A text that can stand in a line: not empty, without blanks at its ends, and in one piece. -/
def IsInline (s : String) : Prop :=
  s ≠ "" ∧ trim s = s ∧ '\n' ∉ s.toList

/-- Behind the first of several joined texts come the separator and the others, joined likewise. -/
theorem toList_join_cons (separator s t : String) (more : List String) :
    (join separator (s :: t :: more)).toList =
      s.toList ++ (separator.toList ++ (join separator (t :: more)).toList) := by
  simp [join, List.intercalate]

@[simp]
theorem join_singleton (separator s : String) : join separator [s] = s := by
  simp [join, List.intercalate]

/-- What can stand in a line has no blanks at its ends. -/
theorem IsInline.trimmed {s : String} (h : IsInline s) : Chars.Trimmed s.toList := by
  obtain ⟨hne, htrim, _⟩ := h
  refine .of_trim_eq (by simpa using hne) ?_
  have := congrArg String.toList htrim
  simpa [trim] using this

/-- A text on one line without blanks at its ends can stand in a line. -/
theorem isInline_of_trimmed {s : String} (h : Chars.Trimmed s.toList) (hline : '\n' ∉ s.toList) :
    IsInline s :=
  ⟨by simpa using h.ne_nil, by simp [trim, h.trim_eq], hline⟩

/-- A word can stand in a line. -/
theorem IsToken.isInline {s : String} (h : IsToken s) : IsInline s := by
  refine isInline_of_trimmed (Chars.trimmed_of_noBlank (by simpa using h.1) h.2) fun hmem => ?_
  cases h.2 _ hmem

/-- Texts that can stand in a line can stand in one together. -/
theorem isInline_join {texts : List String} (hne : texts ≠ []) (h : ∀ s ∈ texts, IsInline s) :
    IsInline (join " " texts) := by
  induction texts with
  | nil => exact absurd rfl hne
  | cons s rest ih =>
    have hs := h s (.head _)
    cases rest with
    | nil => simpa using hs
    | cons t more =>
      have hrest := ih (by simp) fun u hu => h u (.tail _ hu)
      refine isInline_of_trimmed ?_ ?_
      · rw [toList_join_cons]
        exact hs.trimmed.append hrest.trimmed _
      · rw [toList_join_cons]
        simp [hs.2.2, hrest.2.2]

/-- A phrase can stand in a line: it begins and ends with a word. -/
theorem IsPhrase.isInline {s : String} (h : IsPhrase s) : IsInline s := by
  obtain ⟨tokens, hne, htokens, rfl⟩ := h
  exact isInline_join hne fun token hmem => (htokens token hmem).isInline

/-- A single word is a phrase. -/
theorem IsToken.isPhrase {s : String} (h : IsToken s) : IsPhrase s :=
  ⟨[s], by simp, by simpa using h, (join_singleton _ _).symm⟩

/-- A word is cut into itself alone. -/
theorem IsToken.words_eq {s : String} (h : IsToken s) : words s = [s] := by
  simp [words, Chars.words_of_noBlank (by simpa using h.1) h.2]

/-- Texts joined by spaces have the words of the texts. -/
theorem words_join (texts : List String) : words (join " " texts) = texts.flatMap words := by
  induction texts with
  | nil => rfl
  | cons s rest ih =>
    cases rest with
    | nil => simp
    | cons t more =>
      have hjoin : Chars.words (s.toList ++ ' ' :: (join " " (t :: more)).toList) =
          Chars.words s.toList ++ Chars.words (join " " (t :: more)).toList :=
        Chars.words_append_cons _ _ rfl
      rw [List.flatMap_cons, ← ih, words, toList_join_cons]
      simpa [words] using congrArg (List.map String.ofList) hjoin

/-- Words that are cut once more stay the same words. -/
theorem flatMap_words {tokens : List String} (h : ∀ token ∈ tokens, IsToken token) :
    tokens.flatMap words = tokens := by
  induction tokens with
  | nil => rfl
  | cons token rest ih =>
    rw [List.flatMap_cons, (h token (.head _)).words_eq, ih fun t ht => h t (.tail _ ht)]
    rfl

/-- A phrase is restored from its words. -/
theorem IsPhrase.join_words {s : String} (h : IsPhrase s) :
    words s ≠ [] ∧ join " " (words s) = s := by
  obtain ⟨tokens, hne, htokens, rfl⟩ := h
  have hwords : words (join " " tokens) = tokens := by
    rw [words_join, flatMap_words htokens]
  rw [hwords]
  exact ⟨hne, rfl⟩

/-- Lines joined by line feeds are cut into the same lines. -/
theorem lines_join {texts : List String} (hne : texts ≠ []) (h : ∀ s ∈ texts, '\n' ∉ s.toList) :
    Chars.lines (join "\n" texts).toList = texts.map String.toList := by
  induction texts with
  | nil => exact absurd rfl hne
  | cons s rest ih =>
    have hs : '\n' ∉ s.toList := h s (.head _)
    cases rest with
    | nil => simpa using Chars.lines_eq_singleton hs
    | cons t more =>
      rw [toList_join_cons, List.map_cons, ← ih (by simp) fun u hu => h u (.tail _ hu)]
      exact Chars.lines_append_cons hs _

/-- Lines that each end in a line feed are cut into these lines, with nothing after the last one. -/
theorem lines_flatMap {lines : List String} (h : ∀ line ∈ lines, '\n' ∉ line.toList) :
    Chars.lines (lines.flatMap fun line => line.toList ++ ['\n']) = lines.map String.toList ++ [[]] := by
  induction lines with
  | nil => rfl
  | cons line rest ih =>
    obtain ⟨hline, hrest⟩ := List.forall_mem_cons.mp h
    rw [List.flatMap_cons, List.append_assoc, List.cons_append, List.nil_append,
      Chars.lines_append_cons hline, ih hrest]
    rfl

end Text

end TouchScript
