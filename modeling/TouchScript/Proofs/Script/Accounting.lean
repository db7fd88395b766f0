import Mathlib.Data.List.Nodup
import TouchScript.Proofs.Script.Placement

namespace TouchScript

/-- The errors that concern what stands on a line. -/
def content (errors : List ParseError) : List ParseError :=
  errors.filter fun e => !e.fault.isStructural

/-- The errors of content in two lists are those of both. -/
@[simp]
theorem content_append (errors more : List ParseError) :
    content (errors ++ more) = content errors ++ content more :=
  List.filter_append ..

/-- The faults of a header are faults of content. -/
theorem content_headerErrors (opening : Opening) :
    content opening.headerErrors = opening.headerErrors := by
  unfold Opening.headerErrors
  cases hheader : OpenBlock.header opening.kind opening.line with
  | ok make => rfl
  | error fault =>
    have hfault := OpenBlock.ofContent_header _ _ fault hheader
    simp [content, hfault]

namespace Outline

/-- The errors that the open blocks still have to report. The fault of a header is reported when its
block is closed, so the errors come in another order than the lines. -/
def pending (openings : List Opening) : List ParseError :=
  openings.flatMap Opening.headerErrors

@[simp]
theorem pending_cons (opening : Opening) (outer : List Opening) :
    pending (opening :: outer) = opening.headerErrors ++ pending outer := rfl

/-- At the end of a source the open blocks report what was pending; that they are open is no fault
of content. -/
theorem content_unclosed (openings : List Opening) :
    content (openings.flatMap fun opening => opening.unclosed :: opening.headerErrors) =
      pending openings := by
  induction openings with
  | nil => rfl
  | cons opening outer ih =>
    have hunclosed : content [opening.unclosed] = [] := rfl
    rw [List.flatMap_cons, content_append, ih, ← List.singleton_append, content_append, hunclosed,
      content_headerErrors, pending_cons, List.nil_append]

end Outline

namespace ParseState

variable (strict : Bool) (state : ParseState)

/-- The content errors that are reported or pending after a line are those from before it, and its
own. -/
theorem content_feed (line : Line) :
    (content (state.feed strict line).errors ++
        Outline.pending (Outline.follow state.openings line)).Perm
      (content state.errors ++ Outline.pending state.openings ++ line.contentErrors) := by
  have hrole := line.role_spec
  unfold feed Outline.follow Line.contentErrors
  split at hrole
  next hcase =>
    simp only [hcase, hrole, if_true, List.append_nil, divide]
    cases hblocks : state.blocks with
    | nil => simp [openings, hblocks, content, Fault.isStructural]
    | cons block outer =>
      simp only [openings, hblocks, List.map_cons, block.mayDivide_eq]
      -- Where an `else` stands makes no difference to the header.
      split
      · rfl
      · simp [content, Fault.isStructural]
  next terminator hcase =>
    obtain ⟨helse, hclose, _⟩ := hrole
    simp only [hcase, helse, hclose, if_true, if_false, List.append_nil, terminate]
    cases hblocks : state.blocks with
    | nil => simp [openings, hblocks, content, Fault.isStructural]
    | cons block outer =>
      rw [errors_close, content_append, content_headerErrors]
      simp only [openings, hblocks, List.map_cons, List.tail_cons, Outline.pending_cons]
      split
      · rw [List.append_assoc]
      · simp [content, Fault.isStructural]
  next kind hcase =>
    obtain ⟨helse, hclose, hopened⟩ := hrole
    simp only [hcase, helse, hclose, hopened, if_false, Outline.pending_cons, List.append_assoc]
    exact List.perm_append_comm.append_left _
  next hcase =>
    obtain ⟨helse, hclose, hopened⟩ := hrole
    simp only [hcase, helse, hclose, hopened, if_false]
    cases hread : Instruction.read line.keyword line.arguments with
    | ok instruction => simp
    | error fault =>
      have hfault := Instruction.ofContent_read _ _ fault hread
      have hown : content [⟨line.number, line.text, fault⟩] = [⟨line.number, line.text, fault⟩] := by
        simp [content, hfault]
      simp only [errors_report, content_append, hown, List.append_assoc]
      exact List.perm_append_comm.append_left _

/-- From any state on, the content errors are those reported or pending there, and those of the
lines. -/
theorem content_foldl (lines : List Line) :
    (content (lines.foldl (feed strict) state).finish.errors).Perm
      (content state.errors ++ Outline.pending state.openings ++ lines.flatMap Line.contentErrors) := by
  induction lines generalizing state with
  | nil => simp [errors_finish, Outline.content_unclosed]
  | cons line rest ih =>
    have hline := content_feed strict state line
    rw [← openings_feed strict] at hline
    rw [List.foldl_cons, List.flatMap_cons, ← List.append_assoc]
    exact (ih _).trans (hline.append_right _)

end ParseState

/-- The errors of content are those of the lines, each once, in some order. -/
theorem Script.content_ofLines (strict : Bool) (lines : List Line) :
    (content (ofLines strict lines).errors).Perm (lines.flatMap Line.contentErrors) :=
  ParseState.content_foldl strict ParseState.start lines

namespace Line

/-- A line that neither divides nor closes a block has content. -/
theorem isContent_of_role {line : Line} (hdivides : line.role ≠ .divides)
    (hcloses : ∀ terminator, line.role ≠ .closes terminator) : line.isContent = true := by
  have hrole := line.role_spec
  split at hrole
  next hcase => exact absurd hcase hdivides
  next terminator hcase => exact absurd hcase (hcloses terminator)
  next => simp [isContent, hrole]
  next => simp [isContent, hrole]

/-- Only a line with content has errors of its content, and not more than one. -/
theorem contentErrors_spec (line : Line) :
    line.contentErrors = [] ∨ line.isContent = true ∧
      ∃ fault, line.contentErrors = [⟨line.number, line.text, fault⟩] := by
  unfold contentErrors
  split
  next kind hcase =>
    unfold Opening.headerErrors
    cases OpenBlock.header kind line with
    | ok make => exact .inl rfl
    | error fault => exact .inr ⟨isContent_of_role (by simp [hcase]) (by simp [hcase]), fault, rfl⟩
  next => exact .inl rfl
  next => exact .inl rfl
  next hcase =>
    cases Instruction.read line.keyword line.arguments with
    | ok instruction => exact .inl rfl
    | error fault => exact .inr ⟨isContent_of_role (by simp [hcase]) (by simp [hcase]), fault, rfl⟩

/-- An error of content is one of a line with content, and has its number. -/
theorem mem_contentErrors {line : Line} {e : ParseError} (he : e ∈ line.contentErrors) :
    line.isContent = true ∧ e.line = line.number := by
  rcases line.contentErrors_spec with hnone | ⟨hcontent, fault, hone⟩
  · simp [hnone] at he
  · rw [hone, List.mem_singleton] at he
    exact ⟨hcontent, congrArg ParseError.line he⟩

/-- A line has the number that it is read with. -/
theorem number_of_ofRaw? {number : Nat} {raw : List Char} {line : Line}
    (hline : ofRaw? number raw = some line) : line.number = number := by
  unfold ofRaw? at hline
  split at hline
  · cases hline
  · cases hline
  · cases hline
    rfl

/-- The lines of a source are numbered in their order. -/
theorem pairwise_ofSource (source : String) :
    (ofSource source).Pairwise fun line later => line.number < later.number := by
  unfold ofSource
  rw [List.pairwise_filterMap]
  have hrange := List.pairwise_lt_range' (s := 1) (n := (Chars.lines source.toList).length)
  rw [← List.zipIdx_map_snd, List.pairwise_map] at hrange
  refine hrange.imp ?_
  rintro ⟨raw, number⟩ ⟨laterRaw, laterNumber⟩ hlt line hline later hlater
  rw [number_of_ofRaw? hline, number_of_ofRaw? hlater]
  exact hlt

/-- No two lines of a source have one number. -/
theorem eq_of_number {source : String} {line other : Line} (hline : line ∈ ofSource source)
    (hother : other ∈ ofSource source) (hnumber : line.number = other.number) : line = other := by
  have hnodup : ((ofSource source).map number).Nodup :=
    List.pairwise_map.mpr ((pairwise_ofSource source).imp fun hlt => Nat.ne_of_lt hlt)
  exact List.inj_on_of_nodup_map hnodup hline hother hnumber

end Line

namespace Outline

/-- Every opening was made by one of these lines. -/
def MadeBy (lines : List Line) (openings : List Opening) : Prop :=
  ∀ opening ∈ openings, opening.line ∈ lines ∧ opening.line.role = .opens opening.kind

/-- A line opens a block that it makes itself. -/
theorem MadeBy.follow {lines : List Line} {openings : List Opening} {line : Line}
    (hmade : MadeBy lines openings) (hline : line ∈ lines) : MadeBy lines (follow openings line) := by
  intro opening hopening
  rcases mem_follow hopening with hbefore | ⟨before, hbefore, _, rfl⟩ | ⟨kind, hrole, rfl⟩
  · exact hmade opening hbefore
  · exact hmade before hbefore
  · exact ⟨hline, hrole⟩

/-- So do several lines, one after the other. -/
theorem MadeBy.foldl {lines : List Line} {openings : List Opening} (hmade : MadeBy lines openings)
    {passed : List Line} (hpassed : passed ⊆ lines) : MadeBy lines (passed.foldl Outline.follow openings) := by
  induction passed generalizing openings with
  | nil => exact hmade
  | cons line rest ih =>
    exact ih (hmade.follow (hpassed (.head _))) fun other hother => hpassed (.tail _ hother)

/-- The places keep the order of the lines. -/
theorem sublist_placements (openings : List Opening) (lines : List Line) :
    ((placements openings lines).map Placement.line).Sublist (lines.map Line.number) := by
  induction lines generalizing openings with
  | nil => exact .slnil
  | cons line rest ih =>
    have hplaced : ((placed openings line).map Placement.line).Sublist [line.number] := by
      unfold placed
      split
      · exact .refl _
      · exact List.nil_sublist _
    rw [placements, List.map_append, List.map_cons, ← List.singleton_append]
    exact hplaced.append (ih _)

end Outline

namespace Script

/-- The numbers of the lines that have errors of their content, each as often as it has one. -/
theorem nodup_content (strict : Bool) (source : String) :
    ((content (parse strict source).errors).map ParseError.line).Nodup := by
  have hperm := (content_ofLines strict (Line.ofSource source)).map ParseError.line
  refine hperm.nodup_iff.mpr (List.Pairwise.imp (fun hlt : _ < _ => Nat.ne_of_lt hlt) ?_)
  rw [List.pairwise_map, List.pairwise_flatMap]
  constructor
  · intro line _
    rcases line.contentErrors_spec with hnone | ⟨_, fault, hone⟩
    · simp [hnone]
    · simp [hone]
  · refine (Line.pairwise_ofSource source).imp ?_
    intro line later hlt e he other hother
    rw [(Line.mem_contentErrors he).2, (Line.mem_contentErrors hother).2]
    exact hlt

/-- The commands of the tree stand in the order in which the lines have placed them. -/
theorem map_line_allOf_parse (strict : Bool) (source : String) :
    (Command.allOf (parse strict source).commands).map Command.line =
      (Outline.placements [] (Line.ofSource source)).map Placement.line := by
  have hplacements : Command.placementsOf [] (parse strict source).commands =
      Outline.placements [] (Line.ofSource source) := placements_ofLines strict (Line.ofSource source)
  rw [Command.map_line_allOf, hplacements]

/-- The commands of a script that has been read come in the order of their lines. -/
theorem pairwise_line_allOf (strict : Bool) (source : String) :
    ((Command.allOf (parse strict source).commands).map Command.line).Pairwise (· < ·) := by
  rw [map_line_allOf_parse]
  exact (List.pairwise_map.mpr (Line.pairwise_ofSource source)).sublist (Outline.sublist_placements ..)

end Script

end TouchScript
