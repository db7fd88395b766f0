import Mathlib.Data.String.Basic
import Mathlib.Logic.Relation
import TouchScript.Proofs.Script.Alike
import TouchScript.Proofs.Script.Recovery
import TouchScript.Proofs.Text.Gaps

namespace TouchScript

namespace Line

/-- One change of a line that leaves its trimmed text as it is: blanks before or after it. A blank line or
a comment may become another one. -/
inductive Shifted : List Char → List Char → Prop
  | start {blanks : List Char} (hblanks : Chars.IsBlank blanks) (raw : List Char) :
    Shifted raw (blanks ++ raw)
  | stop {blanks : List Char} (hblanks : Chars.IsBlank blanks) (raw : List Char) :
    Shifted raw (raw ++ blanks)
  | skipped {a b : String} (ha : Text.IsSkipped a) (hb : Text.IsSkipped b) : Shifted a.toList b.toList

/-- One change of a line that leaves its meaning as it is. Besides the blanks around it this is the case of
the letters in a keyword of ASCII characters, the blanks after the keyword, and, unless the line opens a
branch or a loop, the blanks between other words. -/
inductive Respelled : List Char → List Char → Prop
  | shifted {a b : List Char} (h : Shifted a b) : Respelled a b
  | recased {word other tail : List Char} (hword : ∀ c ∈ word, Chars.isBlank c = false ∧ c.toNat < 0x80)
    (htail : Chars.EndsWord tail) (hcase : other.map Char.toLower = word.map Char.toLower) :
    Respelled (word ++ tail) (other ++ tail)
  | spaced {word gap other tail : List Char} (hne : word ≠ []) (hword : ∀ c ∈ word, Chars.isBlank c = false)
    (hgap : gap ≠ [] ∧ Chars.IsBlank gap) (hother : other ≠ [] ∧ Chars.IsBlank other) :
    Respelled (word ++ (gap ++ tail)) (word ++ (other ++ tail))
  | respaced {word before gap other tail : List Char} (hne : word ≠ [])
    (hword : ∀ c ∈ word, Chars.isBlank c = false) (hbefore : Chars.EndsWord before)
    (hgap : gap ≠ [] ∧ Chars.IsBlank gap) (hother : other ≠ [] ∧ Chars.IsBlank other)
    (hbranch : Chars.lower word ≠ BlockKind.branch.opener.toList)
    (hloop : Chars.lower word ≠ BlockKind.loop.opener.toList) :
    Respelled (word ++ (before ++ (gap ++ tail))) (word ++ (before ++ (other ++ tail)))

variable {a b : List Char}

/-- A line depends on its trimmed text alone. -/
theorem ofRaw?_congr (h : Chars.trim a = Chars.trim b) (n : Nat) : ofRaw? n a = ofRaw? n b := by
  rw [ofRaw?, ofRaw?, h]

/-- A line that is shifted is the same line. -/
theorem Shifted.ofRaw?_eq (h : Shifted a b) (n : Nat) : ofRaw? n a = ofRaw? n b := by
  cases h with
  | start hblanks => exact ofRaw?_congr (Chars.trim_append_of_blank hblanks a).symm n
  | stop hblanks => exact ofRaw?_congr (Chars.trim_append_blanks hblanks a).symm n
  | skipped ha hb => rw [ofRaw?_of_isSkipped ha, ofRaw?_of_isSkipped hb]

/-- A block with a condition is opened by one of two keywords. -/
theorem keyword_of_takesCondition {line : Line} {kind : BlockKind} (hrole : line.role = .opens kind)
    (hkind : kind.TakesCondition) :
    line.keyword = BlockKind.branch.opener ∨ line.keyword = BlockKind.loop.opener := by
  have hspec := line.role_spec
  rw [hrole] at hspec
  have hopener := opened?_eq_some hspec.2.2
  apply hkind.imp
  · rintro rfl
    exact hopener.symm
  · rintro rfl
    exact hopener.symm

section Words

variable {word other tail next : List Char}

/-- A line that starts with a word is a comment, or it has this word and what follows it up to the last
blanks. -/
theorem ofRaw?_word (hne : word ≠ []) (hword : ∀ c ∈ word, Chars.isBlank c = false) (tail : List Char) (n : Nat) :
    ofRaw? n (word ++ tail) =
      if word.head? = some '#' then none else some ⟨n, String.ofList (word ++ Chars.trimEnd tail)⟩ := by
  obtain ⟨first, rest, rfl⟩ := List.exists_cons_of_ne_nil hne
  rw [ofRaw?, Chars.trim_word_append hne hword]
  split
  next hnil => cases hnil
  next after hcomment =>
    obtain ⟨rfl, _⟩ := List.cons.inj hcomment
    rfl
  next htext =>
    refine (if_neg fun hmark => htext (rest ++ Chars.trimEnd tail) ?_).symm
    rw [Option.some.inj hmark]
    rfl

/-- The keyword of a line is its first word in lower case. -/
theorem keyword_word (hword : ∀ c ∈ word, Chars.isBlank c = false) (htail : Chars.EndsWord tail) (n : Nat) :
    keyword ⟨n, String.ofList (word ++ Chars.trimEnd tail)⟩ = String.ofList (Chars.lower word) := by
  rw [keyword, String.toList_ofList, (Chars.takeWhile_word hword htail.trimEnd).1]

/-- What stands behind the first word is trimmed. -/
theorem rest_word (hword : ∀ c ∈ word, Chars.isBlank c = false) (htail : Chars.EndsWord tail) (n : Nat) :
    rest ⟨n, String.ofList (word ++ Chars.trimEnd tail)⟩ = String.ofList (Chars.trim tail) := by
  rw [rest, String.toList_ofList, (Chars.takeWhile_word hword htail.trimEnd).2, Chars.trim_trimEnd]

/-- The arguments of a line are the words behind the first one. -/
theorem arguments_word (hword : ∀ c ∈ word, Chars.isBlank c = false) (htail : Chars.EndsWord tail) (n : Nat) :
    arguments ⟨n, String.ofList (word ++ Chars.trimEnd tail)⟩ = (Chars.words tail).map String.ofList := by
  rw [arguments, rest_word hword htail, Text.words, String.toList_ofList, Chars.words_trim]

/-- A line with words that is no comment has the first one as its keyword and the others as its
arguments. -/
theorem exists_ofRaw?_of_words {raw word : String} {others : List String} (hwords : Text.words raw = word :: others)
    (hmark : word.toList.head? ≠ some '#') (n : Nat) :
    ∃ line, ofRaw? n raw.toList = some line ∧ line.number = n ∧ line.keyword = Text.lower word ∧
      line.arguments = others := by
  obtain ⟨chars, rest, hchars, rfl, rfl⟩ := List.map_eq_cons_iff.mp hwords
  obtain ⟨blanks, tail, hraw, hblanks, htail, rfl⟩ := Chars.exists_of_words_eq_cons hchars
  obtain ⟨hne, hword⟩ := Chars.of_mem_words (hchars.symm ▸ List.mem_cons_self)
  rw [String.toList_ofList] at hmark
  refine ⟨⟨n, String.ofList (chars ++ Chars.trimEnd tail)⟩, ?_, rfl, ?_, arguments_word hword htail n⟩
  · rw [hraw, ofRaw?_congr (Chars.trim_append_of_blank hblanks _), ofRaw?_word hne hword, if_neg hmark]
  · rw [keyword_word hword htail, Text.lower, String.toList_ofList]

/-- Two lines that start with words are read alike if the words differ in case only, the same words come
after them and, if they are conditions, the same texts. -/
theorem rel_ofRaw?_word (hne : word ≠ []) (hword : ∀ c ∈ word, Chars.isBlank c = false)
    (hother : other ≠ [] ∧ ∀ c ∈ other, Chars.isBlank c = false) (htail : Chars.EndsWord tail)
    (hnext : Chars.EndsWord next) (hmark : other.head? = some '#' ↔ word.head? = some '#')
    (hkeyword : Chars.lower other = Chars.lower word) (hwords : Chars.words next = Chars.words tail)
    (hrest : Chars.lower word = BlockKind.branch.opener.toList ∨
      Chars.lower word = BlockKind.loop.opener.toList → Chars.trim next = Chars.trim tail) (n : Nat) :
    Option.Rel Alike (ofRaw? n (word ++ tail)) (ofRaw? n (other ++ next)) := by
  rw [ofRaw?_word hne hword, ofRaw?_word hother.1 hother.2]
  by_cases hcomment : word.head? = some '#'
  · rw [if_pos hcomment, if_pos (hmark.mpr hcomment)]
    exact .none
  · rw [if_neg hcomment, if_neg (hmark.not.mpr hcomment)]
    have hfirst := keyword_word hword htail n
    apply Option.Rel.some
    refine ⟨rfl, ?_, ?_, fun kind hrole hkind => ?_⟩
    · rw [hfirst, keyword_word hother.2 hnext, hkeyword]
    · rw [arguments_word hword htail, arguments_word hother.2 hnext, hwords]
    · have hopener := keyword_of_takesCondition hrole hkind
      rw [hfirst, String.ofList_eq, String.ofList_eq] at hopener
      rw [rest_word hword htail, rest_word hother.2 hnext, hrest hopener]

end Words

/-- A line is alike to itself, if there is one. -/
theorem rel_refl (line? : Option Line) : Option.Rel Alike line? line? := by
  cases line? with
  | none => exact .none
  | some line => exact .some (.refl line)

/-- A line that was changed in its layout or in the case of its keyword is read alike. -/
theorem Respelled.rel_ofRaw? (h : Respelled a b) (n : Nat) : Option.Rel Alike (ofRaw? n a) (ofRaw? n b) := by
  cases h with
  | shifted h =>
    rw [h.ofRaw?_eq]
    exact rel_refl _
  | @recased word other _ hword htail hcase =>
    by_cases hne : word = []
    · obtain rfl : other = [] := by
        rw [hne] at hcase
        exact List.map_eq_nil_iff.mp hcase
      rw [hne]
      exact rel_refl _
    · have hother := Chars.forall_mem_of_toLower hword hcase
      have hempty : other ≠ [] := by
        rintro rfl
        exact hne (List.map_eq_nil_iff.mp hcase.symm)
      have hlower : Chars.lower other = Chars.lower word := by
        rw [Chars.lower_eq_map fun c hc => (hother c hc).2, Chars.lower_eq_map fun c hc => (hword c hc).2, hcase]
      exact rel_ofRaw?_word hne (fun c hc => (hword c hc).1) ⟨hempty, fun c hc => (hother c hc).1⟩ htail htail
        ⟨Chars.head?_of_toLower hcase.symm, Chars.head?_of_toLower hcase⟩ hlower rfl (fun _ => rfl) n
  | spaced hne hword hgap hother =>
    refine rel_ofRaw?_word hne hword ⟨hne, hword⟩ ?_ ?_ Iff.rfl rfl ?_ (fun _ => ?_) n
    · exact Chars.endsWord_append hgap.1 hgap.2 _
    · exact Chars.endsWord_append hother.1 hother.2 _
    · rw [Chars.words_append_of_isBlank hother.2, Chars.words_append_of_isBlank hgap.2]
    · rw [Chars.trim_append_of_blank hother.2, Chars.trim_append_of_blank hgap.2]
  | respaced hne hword hbefore hgap hother hbranch hloop =>
    refine rel_ofRaw?_word hne hword ⟨hne, hword⟩ ?_ ?_ Iff.rfl rfl ?_ (fun hopener => ?_) n
    · exact hbefore.append (Chars.endsWord_append hgap.1 hgap.2 _)
    · exact hbefore.append (Chars.endsWord_append hother.1 hother.2 _)
    · rw [Chars.words_append_gap hother.1 hother.2, Chars.words_append_gap hgap.1 hgap.2]
    · exact absurd hopener (not_or.mpr ⟨hbranch, hloop⟩)

/-- However often a line was changed in such a way, it is read alike. -/
theorem rel_ofRaw?_of_eqvGen (h : Relation.EqvGen Respelled a b) (n : Nat) :
    Option.Rel Alike (ofRaw? n a) (ofRaw? n b) := by
  induction h with
  | rel a b h => exact h.rel_ofRaw? n
  | refl a => exact rel_refl _
  | symm a b _ ih =>
    generalize ofRaw? n a = line, ofRaw? n b = other at ih ⊢
    cases ih with
    | none => exact .none
    | some h => exact .some h.symm
  | trans a b c _ _ hab hbc =>
    generalize ofRaw? n a = line, ofRaw? n b = middle, ofRaw? n c = other at hab hbc ⊢
    cases hab with
    | none => exact hbc
    | some h =>
      cases hbc with
      | some k => exact .some (h.trans k)

/-- A line that is shifted any number of times, back and forth, is the same line. -/
theorem ofRaw?_eq_of_eqvGen (h : Relation.EqvGen Shifted a b) (n : Nat) : ofRaw? n a = ofRaw? n b := by
  induction h with
  | rel a b h => exact h.ofRaw?_eq n
  | refl a => rfl
  | symm a b _ ih => exact ih.symm
  | trans a b c _ _ hab hbc => exact hab.trans hbc

/-- Pieces of sources that are read alike one by one give lines that are read alike. -/
theorem forall₂_filterMap {raws others : List (List Char)}
    (h : List.Forall₂ (fun a b => ∀ n, Option.Rel Alike (ofRaw? n a) (ofRaw? n b)) raws others) (first : Nat) :
    List.Forall₂ Alike ((raws.zipIdx first).filterMap fun (raw, n) => ofRaw? n raw)
      ((others.zipIdx first).filterMap fun (raw, n) => ofRaw? n raw) := by
  induction h generalizing first with
  | nil => exact .nil
  | @cons a b _ _ hline _ ih =>
    have hfirst := hline first
    rw [List.zipIdx_cons, List.zipIdx_cons, List.filterMap_cons, List.filterMap_cons]
    dsimp only
    generalize ofRaw? first a = line, ofRaw? first b = other at hfirst
    cases hfirst with
    | none => exact ih (first + 1)
    | some hsame => exact .cons hsame (ih (first + 1))

/-- Sources with the same pieces but for blanks around them and comments have the same lines. -/
theorem ofSource_eq {source other : String}
    (h : List.Forall₂ (Relation.EqvGen Shifted) (Chars.lines source.toList) (Chars.lines other.toList)) :
    ofSource source = ofSource other := by
  rw [ofSource, ofSource]
  generalize Chars.lines source.toList = raws, Chars.lines other.toList = others, 1 = first at h ⊢
  induction h generalizing first with
  | nil => rfl
  | cons hline _ ih =>
    rw [List.zipIdx_cons, List.zipIdx_cons, List.filterMap_cons, List.filterMap_cons, ih (first + 1)]
    dsimp only
    rw [ofRaw?_eq_of_eqvGen hline]

end Line

/-- Layout and case do not matter. Take a source with as many lines as another, in which each line has
become, by any number of changes forth and back, the line in its place: blanks at its ends, which may be
carriage returns, the case of letters in a keyword of ASCII characters, the blanks after the keyword, the
blanks between the words after it unless the line opens a branch or a loop, another comment or blank line.
It has the same commands, and the same faults on the same lines. If no blanks between words and no case was
changed, it has the same errors. -/
theorem Script.layout_irrelevant (strict : Bool) {source other : String}
    (h : List.Forall₂ (Relation.EqvGen Line.Respelled) (Chars.lines source.toList)
      (Chars.lines other.toList)) :
    (parse strict source).commands = (parse strict other).commands ∧
      (parse strict source).errors.map ParseError.place = (parse strict other).errors.map ParseError.place ∧
      (List.Forall₂ (Relation.EqvGen Line.Shifted) (Chars.lines source.toList) (Chars.lines other.toList) →
        (parse strict source).errors = (parse strict other).errors) := by
  have hlines : List.Forall₂ Line.Alike (Line.ofSource source) (Line.ofSource other) :=
    Line.forall₂_filterMap (h.imp fun _ _ => Line.rel_ofRaw?_of_eqvGen) 1
  obtain ⟨hcommands, herrors⟩ := ofLines_alike strict hlines
  refine ⟨hcommands, herrors, fun hshifted => ?_⟩
  rw [parse, parse, Line.ofSource_eq hshifted]

/-- A log line with other blanks in a branch that is closed by the wrong word; and a stray `else` with
blanks before it, where only the comment after it is another one. -/
theorem Script.layout_irrelevant_log :
    List.Forall₂ (Relation.EqvGen Line.Respelled) (Chars.lines "IF x\r\n  log a b\n# note\nEndWhile".toList)
        (Chars.lines "if x\nLog\ta \t b\n\nendwhile".toList) ∧
      (parse true "if x\nLog\ta \t b\n\nendwhile").commands = [.branch 1 "x" [.leaf 2 (.log "a b")] []] ∧
      (parse true "if x\nLog\ta \t b\n\nendwhile").errors.map ParseError.place =
        [(4, .mismatchedTerminator "endwhile" "if" 1)] ∧
      List.Forall₂ (Relation.EqvGen Line.Shifted) (Chars.lines "else\n#".toList)
        (Chars.lines " else\n".toList) ∧
      (parse true " else\n").errors = [⟨1, "else", .unexpectedElse⟩] := by
  have hblank : Chars.IsBlank [' '] ∧ Chars.IsBlank ['\t'] ∧ Chars.IsBlank ['\r'] ∧
      Chars.IsBlank [' ', ' '] ∧ Chars.IsBlank [' ', '\t', ' '] := by decide
  obtain ⟨hspace, htab, hreturn, hindent, hwide⟩ := hblank
  have hskipped : Text.IsSkipped "# note" ∧ Text.IsSkipped "#" ∧ Text.IsSkipped "" := by
    unfold Text.IsSkipped
    decide
  obtain ⟨hnote, hmark, hempty⟩ := hskipped
  have hword : ∀ c ∈ ['L', 'o', 'g'], Chars.isBlank c = false := by simp [Chars.isBlank]
  have hopener : Relation.EqvGen Line.Respelled "IF x\r".toList "if x".toList := by
    apply Relation.EqvGen.trans _ "IF x".toList
    · exact .symm _ _ (.rel _ _ (.shifted (.stop hreturn "IF x".toList)))
    · exact .rel _ _ (@Line.Respelled.recased ['I', 'F'] ['i', 'f'] [' ', 'x'] (by simp [Chars.isBlank])
        (Chars.endsWord_append (List.cons_ne_nil _ _) hspace ['x']) (by decide))
  have hlog : Relation.EqvGen Line.Respelled "  log a b".toList "Log\ta \t b".toList := by
    apply Relation.EqvGen.trans _ "log a b".toList
    · exact .symm _ _ (.rel _ _ (.shifted (.start hindent "log a b".toList)))
    apply Relation.EqvGen.trans _ "Log a b".toList
    · exact .rel _ _ (@Line.Respelled.recased ['l', 'o', 'g'] ['L', 'o', 'g'] [' ', 'a', ' ', 'b']
        (by simp [Chars.isBlank]) (Chars.endsWord_append (List.cons_ne_nil _ _) hspace ['a', ' ', 'b']) (by decide))
    apply Relation.EqvGen.trans _ "Log\ta b".toList
    · exact .rel _ _ (@Line.Respelled.spaced ['L', 'o', 'g'] [' '] ['\t'] ['a', ' ', 'b'] (by decide) hword
        ⟨by decide, hspace⟩ ⟨by decide, htab⟩)
    · exact .rel _ _ (@Line.Respelled.respaced ['L', 'o', 'g'] ['\t', 'a'] [' '] [' ', '\t', ' '] ['b'] (by decide)
        hword (Chars.endsWord_append (List.cons_ne_nil _ _) htab ['a']) ⟨by decide, hspace⟩
        ⟨by decide, hwide⟩ (by decide) (by decide))
  have hclose : Relation.EqvGen Line.Respelled "EndWhile".toList "endwhile".toList :=
    .rel _ _ (@Line.Respelled.recased "EndWhile".toList "endwhile".toList [] (by simp [Chars.isBlank])
      Chars.endsWord_nil (by decide))
  have hlines : List.Forall₂ (Relation.EqvGen Line.Respelled)
      (Chars.lines "IF x\r\n  log a b\n# note\nEndWhile".toList)
      (Chars.lines "if x\nLog\ta \t b\n\nendwhile".toList) :=
    .cons hopener <| .cons hlog <| .cons (.rel _ _ (.shifted (.skipped hnote hempty))) <| .cons hclose .nil
  have hshifted : List.Forall₂ (Relation.EqvGen Line.Shifted) (Chars.lines "else\n#".toList)
      (Chars.lines " else\n".toList) :=
    .cons (.rel _ _ (.start hspace "else".toList)) <| .cons (.rel _ _ (.skipped hmark hempty)) .nil
  obtain ⟨hcommands, herrors, _⟩ := layout_irrelevant true hlines
  have hrespelled := hshifted.imp fun _ _ => Relation.EqvGen.mono (fun _ _ => Line.Respelled.shifted) _ _
  have hsame := (layout_irrelevant true hrespelled).2.2 hshifted
  exact ⟨hlines, hcommands.symm, herrors.symm, hshifted, hsame.symm⟩

end TouchScript
