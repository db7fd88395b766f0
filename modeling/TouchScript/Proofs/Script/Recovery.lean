import TouchScript.Proofs.Script.Accounting
import TouchScript.Proofs.Script.Concatenation
import TouchScript.Proofs.Script.Sift
import TouchScript.Proofs.Text.Pieces

namespace TouchScript

/-- Whether a text is a blank line or a comment. -/
def Text.IsSkipped (s : String) : Prop :=
  '\n' ∉ s.toList ∧ (Chars.trim s.toList = [] ∨ (Chars.trim s.toList).head? = some '#')

/-- A source in which the lines with these numbers have other texts. -/
def Text.withLines (numbers : List Nat) (text : Nat → String) (source : String) : String :=
  Text.join "\n" <| ((Chars.lines source.toList).zipIdx 1).map fun (raw, number) =>
    if number ∈ numbers then text number else String.ofList raw

namespace Outline

/-- Every error of an outline is on one of its lines. -/
theorem exists_line_of_mem_errors {strict : Bool} {openings : List Opening} {lines : List Line}
    {e : ParseError} (he : e ∈ errors strict openings lines) :
    (∃ line ∈ lines, e.line = line.number) ∨ ∃ opening ∈ openings, e.line = opening.line.number := by
  induction lines generalizing openings with
  | nil =>
    obtain ⟨opening, hopening, rfl⟩ := List.mem_map.mp he
    exact .inr ⟨opening, hopening, rfl⟩
  | cons line rest ih =>
    rcases List.mem_append.mp he with hown | hlater
    · obtain ⟨fault, _, rfl⟩ := List.mem_map.mp hown
      exact .inl ⟨line, .head _, rfl⟩
    · rcases ih hlater with ⟨other, hother, hnumber⟩ | ⟨opening, hopening, hnumber⟩
      · exact .inl ⟨other, .tail _ hother, hnumber⟩
      · rcases mem_follow hopening with hbefore | ⟨before, hbefore, _, rfl⟩ | ⟨kind, _, rfl⟩
        · exact .inr ⟨opening, hbefore, hnumber⟩
        · exact .inr ⟨before, hbefore, hnumber⟩
        · exact .inl ⟨line, .head _, hnumber⟩

end Outline

namespace Line

variable {line : Line}

/-- A line that takes no part in the nesting is read as an instruction. -/
theorem isNesting_eq_false : line.isNesting = false ↔ line.role = .leaf := by
  have hrole := line.role_spec
  split at hrole <;> rename_i hcase <;> simp [isNesting, hcase, hrole]

/-- There is no line where the text is blank or a comment. -/
theorem ofRaw?_of_isSkipped {text : String} (htext : Text.IsSkipped text) (number : Nat) :
    ofRaw? number text.toList = none := by
  unfold ofRaw?
  split
  next => rfl
  next => rfl
  next htrim hcomment =>
    rcases htext.2 with hblank | hhead
    · exact absurd hblank htrim
    · obtain ⟨rest, hrest⟩ := List.head?_eq_some_iff.mp hhead
      exact absurd hrest (hcomment rest)

/-- A list that is changed by position keeps its positions. -/
theorem zipIdx_map_zipIdx {α β : Type} (f : α × Nat → β) (xs : List α) (n : Nat) :
    ((xs.zipIdx n).map f).zipIdx n = (xs.zipIdx n).map fun x => (f x, x.2) := by
  induction xs generalizing n with
  | nil => rfl
  | cons x rest ih => simp [List.zipIdx_cons, ih]

/-- With blank lines or comments in their places, lines are left out. -/
theorem ofSource_withLines {text : Nat → String} (hskip : ∀ number, Text.IsSkipped (text number))
    (numbers : List Nat) (source : String) :
    ofSource (Text.withLines numbers text source) =
      (ofSource source).filter fun line => line.number ∉ numbers := by
  have hlines : Chars.lines (Text.withLines numbers text source).toList =
      ((Chars.lines source.toList).zipIdx 1).map fun (raw, number) =>
        (if number ∈ numbers then text number else String.ofList raw).toList := by
    rw [Text.withLines, Text.lines_join, List.map_map]
    · rfl
    · have hlength := length_lines source.toList
      intro hnil
      have hzero := congrArg List.length hnil
      simp only [List.length_map, List.length_zipIdx, List.length_nil] at hzero
      omega
    · intro line hline
      obtain ⟨⟨raw, number⟩, hmem, rfl⟩ := List.mem_map.mp hline
      dsimp only
      split
      · exact (hskip number).1
      · rw [String.toList_ofList]
        exact Chars.not_mem_of_mem_lines (List.fst_mem_of_mem_zipIdx hmem)
  rw [ofSource, hlines, zipIdx_map_zipIdx, List.filterMap_map, ofSource, List.filter_filterMap]
  refine List.filterMap_congr fun piece _ => ?_
  obtain ⟨raw, number⟩ := piece
  dsimp only [Function.comp_apply]
  split
  next hmem =>
    rw [ofRaw?_of_isSkipped (hskip number)]
    cases hline : ofRaw? number raw with
    | none => rfl
    | some line => simp [Option.filter, number_of_ofRaw? hline, hmem]
  next hmem =>
    rw [String.toList_ofList]
    cases hline : ofRaw? number raw with
    | none => rfl
    | some line => simp [Option.filter, number_of_ofRaw? hline, hmem]

end Line

namespace ParseState

variable (strict : Bool) (leaves : List Nat)

/-- Reading without some lines that have errors and take no part in the nesting of blocks: it gives the
same commands, and the errors of the other lines. -/
theorem finish_foldl_filter {lines : List Line} (state : ParseState)
    (hlines : ∀ line ∈ lines, line.number ∈ leaves → line.role = .leaf ∧
      ∃ fault, Instruction.read line.keyword line.arguments = .error fault)
    (hopen : ∀ opening ∈ state.openings, opening.line.number ∉ leaves) :
    ((lines.filter fun line => line.number ∉ leaves).foldl (feed strict)
        (state.sift fun e => e.line ∉ leaves)).finish =
      ⟨(lines.foldl (feed strict) state).finish.commands,
        (lines.foldl (feed strict) state).finish.errors.filter fun e => e.line ∉ leaves⟩ := by
  have hspared {line : Line} (hline : line.number ∉ leaves) : line.Spared fun e => e.line ∉ leaves :=
    fun _ => decide_eq_true hline
  induction lines generalizing state with
  | nil => exact sift_finish state fun opening hopening => hspared (hopen opening hopening)
  | cons line rest ih =>
    obtain ⟨hline, hrest⟩ := List.forall_mem_cons.mp hlines
    by_cases hleaf : line.number ∈ leaves
    · obtain ⟨hrole, fault, hread⟩ := hline hleaf
      have hfeed : state.feed strict line = state.report line fault := by
        simp only [feed, hrole, hread]
      rw [List.filter_cons_of_neg (by simpa using hleaf), List.foldl_cons, hfeed,
        ← ih (state.report line fault) hrest hopen, sift_report_of_not state (by simpa using hleaf)]
    · have hsift := sift_feed strict state (hspared hleaf)
        fun opening hopening => hspared (hopen opening hopening)
      rw [List.filter_cons_of_pos (by simpa using hleaf), List.foldl_cons, List.foldl_cons, ← hsift]
      refine ih (state.feed strict line) hrest fun opening hopening => ?_
      rw [openings_feed] at hopening
      rcases Outline.mem_follow hopening with hbefore | ⟨before, hbefore, _, rfl⟩ | ⟨kind, _, rfl⟩
      · exact hopen opening hbefore
      · exact hopen before hbefore
      · exact hleaf

end ParseState

namespace Script

/-- An error of a script is about the nesting of a line that takes part in it, or about the content of a
line. -/
theorem exists_line_of_mem_errors {strict : Bool} {source : String} {e : ParseError}
    (he : e ∈ (parse strict source).errors) :
    ∃ line ∈ Line.ofSource source, e.line = line.number ∧
      (e.fault.isStructural = true ∧ line.isNesting = true ∨
        e.fault.isStructural = false ∧ e ∈ line.contentErrors) := by
  cases hfault : e.fault.isStructural with
  | true =>
    have hmem : e ∈ structural (parse strict source).errors := List.mem_filter.mpr ⟨he, hfault⟩
    rw [parse, ofLines, ParseState.structural_foldl, ← Outline.errors_filter] at hmem
    rcases Outline.exists_line_of_mem_errors hmem with ⟨line, hline, hnumber⟩ | ⟨_, hnone, _⟩
    · obtain ⟨hline, hnesting⟩ := List.mem_filter.mp hline
      exact ⟨line, hline, hnumber, .inl ⟨rfl, hnesting⟩⟩
    · cases hnone
  | false =>
    have hmem : e ∈ content (parse strict source).errors := List.mem_filter.mpr ⟨he, by simp [hfault]⟩
    obtain ⟨line, hline, hown⟩ :=
      List.mem_flatMap.mp ((content_ofLines strict (Line.ofSource source)).mem_iff.mp hmem)
    exact ⟨line, hline, (Line.mem_contentErrors hown).2, .inr ⟨rfl, hown⟩⟩

/-- The lines of a source that take no part in the nesting of blocks and have an error. -/
def badLeaves (strict : Bool) (source : String) : List Line :=
  (Line.ofSource source).filter fun line =>
    !line.isNesting && (parse strict source).errors.any fun e => e.line == line.number

/-- Whether an error is about the content of a line that opens a block. -/
def IsHeaderError (source : String) (e : ParseError) : Prop :=
  ∃ line ∈ Line.ofSource source, (∃ kind, line.role = .opens kind) ∧ e ∈ line.contentErrors

variable {strict : Bool} {source : String}

/-- A bad line is one of the lines without a part in the nesting, with an error of its number. -/
theorem mem_badLeaves {line : Line} :
    line ∈ badLeaves strict source ↔ line ∈ Line.ofSource source ∧ line.isNesting = false ∧
      ∃ e ∈ (parse strict source).errors, e.line = line.number := by
  simp [badLeaves]

/-- All errors on a line that takes no part in the nesting of blocks are errors of its content. -/
theorem mem_contentErrors_of_leaf {line : Line} (hline : line ∈ Line.ofSource source)
    (hleaf : line.isNesting = false) {e : ParseError} (he : e ∈ (parse strict source).errors)
    (hnumber : e.line = line.number) : e.fault.isStructural = false ∧ e ∈ line.contentErrors := by
  obtain ⟨other, hother, hsame, hcase⟩ := exists_line_of_mem_errors he
  obtain rfl : other = line := Line.eq_of_number hother hline (hsame.symm.trans hnumber)
  rcases hcase with ⟨_, hnesting⟩ | hcontent
  · simp [hleaf] at hnesting
  · exact hcontent

/-- What is wrong with a bad line is its own instruction. -/
theorem read_of_mem_badLeaves {line : Line} (hline : line ∈ badLeaves strict source) :
    line.role = .leaf ∧ ∃ fault, Instruction.read line.keyword line.arguments = .error fault := by
  obtain ⟨hsource, hleaf, e, he, hnumber⟩ := mem_badLeaves.mp hline
  have hrole := Line.isNesting_eq_false.mp hleaf
  have hcontent := (mem_contentErrors_of_leaf hsource hleaf he hnumber).2
  simp only [Line.contentErrors, hrole] at hcontent
  split at hcontent
  next => cases hcontent
  next fault hread => exact ⟨hrole, fault, hread⟩

/-- With blank lines or comments in the places of some bad lines, a script has the same commands, and the
errors of its other lines. -/
theorem parse_withLines {text : Nat → String} (hskip : ∀ number, Text.IsSkipped (text number))
    {numbers : List Nat}
    (hbad : ∀ line ∈ Line.ofSource source, line.number ∈ numbers → line ∈ badLeaves strict source) :
    parse strict (Text.withLines numbers text source) =
      ⟨(parse strict source).commands,
        (parse strict source).errors.filter fun e => e.line ∉ numbers⟩ := by
  rw [parse, ofLines, Line.ofSource_withLines hskip]
  exact ParseState.finish_foldl_filter strict numbers ParseState.start
    (fun line hline hchosen => read_of_mem_badLeaves (hbad line hline hchosen)) (List.forall_mem_nil _)

/-- A bad line has exactly one error. -/
theorem exists_split_errors {line : Line} (hline : line ∈ badLeaves strict source) :
    ∃ before e after, (parse strict source).errors = before ++ e :: after ∧ e.line = line.number ∧
      ∀ other ∈ before ++ after, other.line ≠ line.number := by
  obtain ⟨hsource, hleaf, e, he, hnumber⟩ := mem_badLeaves.mp hline
  obtain ⟨before, after, hsplit⟩ := List.append_of_mem he
  refine ⟨before, e, after, hsplit, hnumber, fun other hother hsame => ?_⟩
  have hcontent {e : ParseError} (he : e ∈ (parse strict source).errors)
      (hnumber : e.line = line.number) : e.fault.isStructural = false :=
    (mem_contentErrors_of_leaf hsource hleaf he hnumber).1
  -- The list of content errors has no line twice.
  have hcontents : content (parse strict source).errors = content before ++ e :: content after := by
    rw [hsplit, content_append]
    simp [content, hcontent he hnumber]
  have hnodup := nodup_content strict source
  rw [hcontents, List.map_append, List.map_cons, List.nodup_middle, List.nodup_cons, ← List.map_append,
    ← content_append] at hnodup
  have hmem : other ∈ (parse strict source).errors := by
    rw [hsplit]
    exact ((List.sublist_cons_self e after).append_left before).subset hother
  have hother : other ∈ content (before ++ after) :=
    List.mem_filter.mpr ⟨hother, by simp [hcontent hmem hsame]⟩
  exact hnodup.1 (List.mem_map.mpr ⟨other, hother, hsame.trans hnumber.symm⟩)

/-- The other errors are those of nesting and of headers. -/
theorem structural_or_header_iff {e : ParseError} (he : e ∈ (parse strict source).errors) :
    (e.fault.isStructural = true ∨ IsHeaderError source e) ↔
      ∀ line ∈ badLeaves strict source, line.number ≠ e.line := by
  obtain ⟨line, hline, hnumber, hcase⟩ := exists_line_of_mem_errors he
  constructor
  · intro hkept bad hbad hsame
    obtain ⟨hsource, hleaf, _⟩ := mem_badLeaves.mp hbad
    rcases hkept with hstructural | ⟨opener, hopener, ⟨kind, hrole⟩, hown⟩
    · simp [(mem_contentErrors_of_leaf hsource hleaf he hsame.symm).1] at hstructural
    · have hnumbers : opener.number = bad.number := (Line.mem_contentErrors hown).2.symm.trans hsame.symm
      obtain rfl : opener = bad := Line.eq_of_number hopener hsource hnumbers
      rw [Line.isNesting_eq_false.mp hleaf] at hrole
      cases hrole
  · intro hgood
    rcases hcase with ⟨hstructural, _⟩ | ⟨_, hown⟩
    · exact .inl hstructural
    · refine .inr ⟨line, hline, ?_, hown⟩
      have hcontent := (Line.mem_contentErrors hown).1
      cases hrole : line.role with
      | opens kind => exact ⟨kind, rfl⟩
      | divides | closes => simp [Line.contentErrors, hrole] at hown
      | leaf =>
        have hbad : line ∈ badLeaves strict source :=
          mem_badLeaves.mpr ⟨hline, Line.isNesting_eq_false.mpr hrole, e, he, hnumber⟩
        exact absurd hnumber.symm (hgood line hbad)

/-- A bad line, one that takes no part in the nesting of blocks and has an error, affects nothing but
itself. With a blank line or a comment in its place the script has the same commands, and the same errors
but for the one of this line. With blank lines or comments in the places of all bad lines it has the same
commands, and exactly those errors that are about the nesting of blocks or about their first lines. -/
theorem bad_leaves_are_local (strict : Bool) (source : String) (text : Nat → String)
    (hskip : ∀ number, Text.IsSkipped (text number)) :
    (∀ line ∈ badLeaves strict source, ∃ before e after,
      (parse strict source).errors = before ++ e :: after ∧ e.line = line.number ∧
      (∀ other ∈ before ++ after, other.line ≠ line.number) ∧
      parse strict (Text.withLines [line.number] text source) =
        ⟨(parse strict source).commands, before ++ after⟩) ∧
    ∃ remaining,
      parse strict (Text.withLines ((badLeaves strict source).map Line.number) text source) =
        ⟨(parse strict source).commands, remaining⟩ ∧
      remaining.Sublist (parse strict source).errors ∧
      ∀ e ∈ (parse strict source).errors,
        e ∈ remaining ↔ e.fault.isStructural = true ∨ IsHeaderError source e := by
  constructor
  · intro line hline
    obtain ⟨before, e, after, hsplit, hnumber, hothers⟩ := exists_split_errors hline
    refine ⟨before, e, after, hsplit, hnumber, hothers, ?_⟩
    have hkept : (parse strict source).errors.filter (fun e => e.line ∉ [line.number]) = before ++ after := by
      have hboth : (before ++ after).filter (fun e => e.line ∉ [line.number]) = before ++ after :=
        List.filter_eq_self.mpr fun other hother => by simpa using hothers other hother
      rw [hsplit, List.filter_append, List.filter_cons_of_neg (by simpa using hnumber),
        ← List.filter_append, hboth]
    rw [parse_withLines hskip, hkept]
    intro other hother hchosen
    rwa [Line.eq_of_number hother (mem_badLeaves.mp hline).1 (List.mem_singleton.mp hchosen)]
  · refine ⟨_, parse_withLines hskip ?_, List.filter_sublist, fun e he => ?_⟩
    · intro line hline hchosen
      obtain ⟨bad, hbad, hnumber⟩ := List.mem_map.mp hchosen
      rwa [← Line.eq_of_number (mem_badLeaves.mp hbad).1 hline hnumber]
    · rw [structural_or_header_iff he]
      simp [he]

/-- A misspelled word in a loop that is never closed. -/
theorem bad_leaves_misspelled :
    Text.IsSkipped " # gone" ∧
      parse true (Text.withLines [2] (fun _ => " # gone") "while x\nclik 1 2\nstop\nelse") =
        ⟨[.loop 1 "x" [.leaf 3 .stop]],
          [⟨4, "else", .unexpectedElse⟩, ⟨1, "while x", .unterminatedBlock "while" 1⟩]⟩ := by
  have hskipped : Text.IsSkipped " # gone" := by
    unfold Text.IsSkipped
    decide
  have hscript : parse true "while x\nclik 1 2\nstop\nelse" = ⟨[.loop 1 "x" [.leaf 3 .stop]],
      [⟨2, "clik 1 2", .unknownCommand "clik"⟩, ⟨4, "else", .unexpectedElse⟩,
        ⟨1, "while x", .unterminatedBlock "while" 1⟩]⟩ := rfl
  have hbad : ⟨2, "clik 1 2"⟩ ∈ badLeaves true "while x\nclik 1 2\nstop\nelse" := by decide +kernel
  obtain ⟨hone, _⟩ := bad_leaves_are_local true "while x\nclik 1 2\nstop\nelse" (fun _ => " # gone")
    fun _ => hskipped
  obtain ⟨before, e, after, hsplit, hnumber, hothers, hparse⟩ := hone ⟨2, "clik 1 2"⟩ hbad
  rw [hscript] at hsplit hparse
  cases before with
  | nil =>
    obtain ⟨rfl, rfl⟩ := List.cons.inj hsplit
    exact ⟨hskipped, hparse⟩
  | cons first rest =>
    obtain ⟨rfl, _⟩ := List.cons.inj hsplit
    exact absurd rfl (hothers _ (.head _))

end Script

end TouchScript
