import TouchScript.Proofs.Text.Words

namespace TouchScript

namespace Chars

/-- The pieces between separators consist of characters of the text that are no separators. -/
theorem forall_mem_splitOnP (p : Char → Bool) (s : List Char) :
    ∀ piece ∈ s.splitOnP p, ∀ c ∈ piece, p c = false ∧ c ∈ s := by
  induction s with
  | nil => simp
  | cons first rest ih =>
    intro piece hpiece c hc
    rw [List.splitOnP_cons_eq_if_modifyHead] at hpiece
    split at hpiece
    next hfirst =>
      rcases List.mem_cons.mp hpiece with rfl | hpiece
      · cases hc
      · exact ⟨(ih piece hpiece c hc).1, .tail _ (ih piece hpiece c hc).2⟩
    next hfirst =>
      obtain ⟨head, tail, hsplit⟩ := List.exists_cons_of_ne_nil (List.splitOnP_ne_nil p rest)
      rw [hsplit] at hpiece ih
      have htail (piece : List Char) (hpiece : piece ∈ head :: tail) (hc : c ∈ piece) :
          p c = false ∧ c ∈ first :: rest :=
        ⟨(ih piece hpiece c hc).1, .tail _ (ih piece hpiece c hc).2⟩
      rcases List.mem_cons.mp hpiece with rfl | hpiece
      · rcases List.mem_cons.mp hc with rfl | hc
        · exact ⟨by simpa using hfirst, .head _⟩
        · exact htail head (.head _) hc
      · exact htail piece (.tail _ hpiece) hc

/-- A line has no line feed in it. -/
theorem not_mem_of_mem_lines {s line : List Char} (hline : line ∈ lines s) : '\n' ∉ line := by
  intro hmem
  cases (forall_mem_splitOnP _ s line hline '\n' hmem).1

/-- A word is not empty and has no blank in it. -/
theorem of_mem_words {s word : List Char} (hword : word ∈ words s) :
    word ≠ [] ∧ ∀ c ∈ word, isBlank c = false := by
  obtain ⟨hmem, hne⟩ := List.mem_filter.mp hword
  refine ⟨?_, fun c hc => (forall_mem_splitOnP _ s word hmem c hc).1⟩
  rintro rfl
  cases hne

/-- Trimming adds no character. -/
theorem mem_of_mem_trim {s : List Char} {c : Char} (hc : c ∈ trim s) : c ∈ s := by
  rw [trim, trimEnd, List.mem_reverse] at hc
  have hstart := (List.dropWhile_suffix _).subset hc
  rw [List.mem_reverse, trimStart] at hstart
  exact (List.dropWhile_suffix _).subset hstart

/-- Dropping the blanks at the end leaves an initial part of a text. -/
theorem trimEnd_initial (s : List Char) : trimEnd s <+: s := by
  rw [← List.reverse_suffix, trimEnd, List.reverse_reverse]
  exact List.dropWhile_suffix _

/-- What trimming leaves has no blank at its ends. -/
theorem trimmed_trim {s : List Char} (hne : trim s ≠ []) : Trimmed (trim s) := by
  constructor
  · obtain ⟨c, rest, hcons⟩ := List.exists_cons_of_ne_nil hne
    have hhead : (trim s).head? = (trimStart s).head? := by
      obtain ⟨after, hafter⟩ := trimEnd_initial (trimStart s)
      rw [← hafter, ← trim, hcons]
      rfl
    have hblank := List.head?_dropWhile_not isBlank s
    rw [← trimStart, ← hhead, hcons] at hblank
    exact ⟨c, by rw [hcons]; rfl, hblank⟩
  · have hlast : (trim s).getLast? = ((trimStart s).reverse.dropWhile isBlank).head? := by
      rw [trim, trimEnd, List.getLast?_reverse]
    have hblank := List.head?_dropWhile_not isBlank (trimStart s).reverse
    rw [← hlast] at hblank
    have hsome := List.getLast?_eq_some_getLast hne
    rw [hsome] at hblank
    exact ⟨_, hsome, hblank⟩

end Chars

namespace Text

/-- What a text is cut into at its blanks are words. -/
theorem isToken_of_mem_words {s word : String} (hword : word ∈ words s) : IsToken word := by
  obtain ⟨chars, hchars, rfl⟩ := List.mem_map.mp hword
  obtain ⟨hne, hblank⟩ := Chars.of_mem_words hchars
  exact ⟨by simpa using hne, by simpa using hblank⟩

/-- Words joined by single spaces are a phrase. -/
theorem isPhrase_join {first : String} {others : List String}
    (htokens : ∀ token ∈ first :: others, IsToken token) : IsPhrase (join " " (first :: others)) :=
  ⟨first :: others, by simp, htokens, rfl⟩

/-- A part of a line, trimmed, can stand in a line, unless nothing is left of it. -/
theorem isInline_trim {s : List Char} (hline : '\n' ∉ s) (hne : String.ofList (Chars.trim s) ≠ "") :
    IsInline (String.ofList (Chars.trim s)) := by
  have hchars : Chars.trim s ≠ [] := by simpa using hne
  refine isInline_of_trimmed ?_ ?_
  · rw [String.toList_ofList]
    exact Chars.trimmed_trim hchars
  · rw [String.toList_ofList]
    exact fun hmem => hline (Chars.mem_of_mem_trim hmem)

end Text

end TouchScript
