import TouchScript.Proofs.Script.Content

namespace TouchScript

/-- The line that opens a block, and whether the second part of the block has begun. How the blocks
of a script nest is decided by the keywords of its lines, so it is found with a stack of these and
without what follows a keyword. -/
structure Opening where
  kind : BlockKind
  line : Line
  divided : Bool
deriving DecidableEq

namespace Opening

/-- Whether an `else` may come: only in a branch, and once. -/
def mayDivide (opening : Opening) : Bool :=
  opening.kind == .branch && !opening.divided

/-- The error of a block that is never closed. -/
def unclosed (opening : Opening) : ParseError :=
  ⟨opening.line.number, opening.line.text,
    .unterminatedBlock opening.kind.opener opening.line.number⟩

/-- The error of the header of a block, if it has one. -/
def headerErrors (opening : Opening) : List ParseError :=
  match OpenBlock.header opening.kind opening.line with
  | .ok _ => []
  | .error fault => [⟨opening.line.number, opening.line.text, fault⟩]

end Opening

namespace Outline

/-- The keywords that close a block. -/
def terminators : List String :=
  "end" :: BlockKind.all.map BlockKind.terminator

/-- The kind of block that a keyword opens. -/
def opened? (keyword : String) : Option BlockKind :=
  BlockKind.all.find? fun kind => kind.opener == keyword

/-- The openings after a line, innermost first. -/
def follow (openings : List Opening) (line : Line) : List Opening :=
  if line.keyword = "else" then
    match openings with
    | [] => []
    | opening :: outer =>
      if opening.mayDivide then { opening with divided := true } :: outer else opening :: outer
  else if line.keyword ∈ terminators then openings.tail
  else
    match opened? line.keyword with
    | some kind => ⟨kind, line, false⟩ :: openings
    | none => openings

/-- Why a line does not fit into the nesting, if it does not. -/
def fault? (strict : Bool) (openings : List Opening) (line : Line) : Option Fault :=
  if line.keyword = "else" then
    match openings with
    | [] => some .unexpectedElse
    | opening :: _ => if opening.mayDivide then none else some .unexpectedElse
  else if line.keyword ∈ terminators then
    match openings with
    | [] => some (.unexpectedTerminator line.keyword)
    | opening :: _ =>
      if strict = true ∧ line.keyword ≠ "end" ∧ line.keyword ≠ opening.kind.terminator then
        some (.mismatchedTerminator line.keyword opening.kind.opener opening.line.number)
      else none
  else none

/-- The error that a line adds to the outline. -/
def lineErrors (strict : Bool) (openings : List Opening) (line : Line) : List ParseError :=
  (fault? strict openings line).toList.map (ParseError.mk line.number line.text)

/-- The errors of an outline in which some blocks are already open: those of the lines one after the
other, and then those of the blocks that are never closed, innermost first. -/
def errors (strict : Bool) : List Opening → List Line → List ParseError
  | openings, [] => openings.map Opening.unclosed
  | openings, line :: rest =>
    lineErrors strict openings line ++ errors strict (follow openings line) rest

end Outline

/-- What the outline looks at in a line. -/
def Line.mark (line : Line) : Nat × String :=
  (line.number, line.keyword)

/-- Whether a line opens, divides or closes a block. -/
def Line.isNesting (line : Line) : Bool :=
  line.keyword = "else" ∨ line.keyword ∈ Outline.terminators ∨
    (Outline.opened? line.keyword).isSome

/-- What the outline looks at in an opening. -/
def Opening.mark (opening : Opening) : BlockKind × Nat × Bool :=
  (opening.kind, opening.line.number, opening.divided)

/-- What an error says, the text of its line apart. -/
def ParseError.mark (e : ParseError) : Nat × Fault :=
  (e.line, e.fault)

namespace Outline

/-- Other lines do not take part in the outline. -/
theorem errors_filter (strict : Bool) (openings : List Opening) (lines : List Line) :
    errors strict openings (lines.filter Line.isNesting) = errors strict openings lines := by
  induction lines generalizing openings with
  | nil => rfl
  | cons line rest ih =>
    by_cases hnesting : line.isNesting = true
    · rw [List.filter_cons_of_pos hnesting, errors, errors, ih]
    · rw [List.filter_cons_of_neg hnesting, ih]
      simp only [Line.isNesting, decide_eq_true_eq, not_or, Option.not_isSome_iff_eq_none] at hnesting
      obtain ⟨helse, hclose, hopened⟩ := hnesting
      simp [errors, lineErrors, fault?, follow, helse, hclose, hopened]

end Outline

/-- The errors that concern the nesting of blocks. -/
def structural (errors : List ParseError) : List ParseError :=
  errors.filter fun e => e.fault.isStructural

/-- The errors of nesting in two lists are those of both. -/
@[simp]
theorem structural_append (errors more : List ParseError) :
    structural (errors ++ more) = structural errors ++ structural more :=
  List.filter_append ..

namespace Line

/-- A keyword that opens a block is the opener of its kind. -/
theorem opened?_eq_some {keyword : String} {kind : BlockKind}
    (hopened : Outline.opened? keyword = some kind) : kind.opener = keyword := by
  simpa using List.find?_some hopened

/-- The keyword of a line decides its role, and with it which blocks the line may close. -/
theorem role_spec (line : Line) :
    match line.role with
    | .divides => line.keyword = "else"
    | .closes terminator => line.keyword ≠ "else" ∧ line.keyword ∈ Outline.terminators ∧
        ∀ strict kind, ParseState.mayClose strict terminator kind = true ↔
          ¬ (strict = true ∧ line.keyword ≠ "end" ∧ line.keyword ≠ kind.terminator)
    | .opens kind => line.keyword ≠ "else" ∧ line.keyword ∉ Outline.terminators ∧
        Outline.opened? line.keyword = some kind
    | .leaf => line.keyword ≠ "else" ∧ line.keyword ∉ Outline.terminators ∧
        Outline.opened? line.keyword = none := by
  unfold role Role.ofKeyword
  generalize line.keyword = keyword
  by_cases helse : keyword = "else"
  · simp [helse]
  by_cases hend : keyword = "end"
  · subst hend
    refine ⟨by decide, by decide, ?_⟩
    simp [ParseState.mayClose]
  rw [if_neg helse, if_neg hend]
  cases hopened : BlockKind.all.find? fun kind => kind.opener == keyword with
  | some kind =>
    obtain rfl := opened?_eq_some hopened
    exact ⟨by cases kind <;> decide, by cases kind <;> decide, hopened⟩
  | none =>
    dsimp only
    cases hclosed : BlockKind.all.find? fun kind => kind.terminator == keyword with
    | some kind =>
      obtain rfl : kind.terminator = keyword := by simpa using List.find?_some hclosed
      refine ⟨by cases kind <;> decide, by cases kind <;> decide, ?_⟩
      intro strict other
      cases strict <;> cases kind <;> cases other <;> decide
    | none =>
      refine ⟨helse, ?_, hopened⟩
      intro hmem
      rcases List.mem_cons.mp hmem with rfl | hmem
      · exact hend rfl
      · obtain ⟨kind, hkind, rfl⟩ := List.mem_map.mp hmem
        simpa using List.find?_eq_none.mp hclosed kind hkind

/-- A line with the keyword of a block opens the block. -/
theorem role_eq_opens {line : Line} {kind : BlockKind} (helse : line.keyword ≠ "else")
    (hclose : line.keyword ∉ Outline.terminators)
    (hopened : Outline.opened? line.keyword = some kind) : line.role = .opens kind := by
  have hrole := line.role_spec
  split at hrole
  next hcase => exact absurd hrole helse
  next hcase => exact absurd hrole.2.1 hclose
  next other hcase =>
    obtain rfl : other = kind := Option.some.inj (hrole.2.2.symm.trans hopened)
    exact hcase
  next hcase => simp [hopened] at hrole

end Line

/-- An opening after a line was there before, is a branch that the line divides, or was made by the
line. -/
theorem Outline.mem_follow {openings : List Opening} {line : Line} {opening : Opening}
    (hopening : opening ∈ follow openings line) :
    opening ∈ openings ∨
      (∃ before ∈ openings, before.kind = .branch ∧ opening = { before with divided := true }) ∨
      ∃ kind, line.role = .opens kind ∧ opening = ⟨kind, line, false⟩ := by
  unfold follow at hopening
  split at hopening
  next =>
    cases openings with
    | nil => cases hopening
    | cons top outer =>
      dsimp only at hopening
      split at hopening
      next hdivide =>
        simp only [Opening.mayDivide, Bool.and_eq_true, beq_iff_eq] at hdivide
        rcases List.mem_cons.mp hopening with rfl | hmem
        · exact .inr (.inl ⟨top, .head _, hdivide.1, rfl⟩)
        · exact .inl (.tail _ hmem)
      next => exact .inl hopening
  next helse =>
    split at hopening
    next => exact .inl (List.mem_of_mem_tail hopening)
    next hclose =>
      split at hopening
      next kind hopened =>
        rcases List.mem_cons.mp hopening with rfl | hmem
        · exact .inr (.inr ⟨kind, Line.role_eq_opens helse hclose hopened, rfl⟩)
        · exact .inl hmem
      next => exact .inl hopening

/-- The faults of a header are no faults of nesting. -/
theorem structural_headerErrors (opening : Opening) : structural opening.headerErrors = [] := by
  unfold Opening.headerErrors
  cases hheader : OpenBlock.header opening.kind opening.line with
  | ok make => rfl
  | error fault =>
    have hcontent := OpenBlock.ofContent_header _ _ fault hheader
    simp [structural, hcontent]

/-- What the outline knows of an open block. -/
def OpenBlock.opening (block : OpenBlock) : Opening :=
  ⟨block.kind, block.opener, block.otherwise.isSome⟩

/-- The outline does not see the commands in a block. -/
@[simp]
theorem OpenBlock.opening_add (block : OpenBlock) (command : Command) :
    (block.add command).opening = block.opening := by
  unfold OpenBlock.add
  cases hotherwise : block.otherwise <;> simp [opening, hotherwise]

/-- A reader and the outline agree on whether an `else` may come. -/
theorem OpenBlock.mayDivide_eq (block : OpenBlock) : block.mayDivide = block.opening.mayDivide := by
  unfold OpenBlock.mayDivide Opening.mayDivide opening
  cases block.otherwise <;> rfl

namespace ParseState

/-- What the outline knows of a reader. -/
def openings (state : ParseState) : List Opening :=
  state.blocks.map OpenBlock.opening

variable (strict : Bool) (state : ParseState)

/-- A report opens and closes no block. -/
@[simp]
theorem openings_report (line : Line) (fault : Fault) :
    (state.report line fault).openings = state.openings := rfl

/-- A report is one error with the number and the text of its line. -/
@[simp]
theorem errors_report (line : Line) (fault : Fault) :
    (state.report line fault).errors = state.errors ++ [⟨line.number, line.text, fault⟩] := rfl

/-- Neither does a command that is added. -/
@[simp]
theorem openings_add (command : Command) : (state.add command).openings = state.openings := by
  unfold add
  cases hblocks : state.blocks <;> simp [openings, hblocks]

/-- A command that is added is no error. -/
@[simp]
theorem errors_add (command : Command) : (state.add command).errors = state.errors := by
  unfold add
  cases state.blocks <;> rfl

/-- A block that is closed is added where the reader stands, with the blocks around it left open. -/
@[simp]
theorem openings_close (block : OpenBlock) : (state.close block).openings = state.openings := by
  unfold close
  cases block.command <;> simp

/-- So they are as many as before. -/
theorem length_blocks_close (block : OpenBlock) :
    (state.close block).blocks.length = state.blocks.length := by
  simpa [openings] using congrArg List.length (openings_close state block)

/-- Closing a block reports its header, if that has a fault. -/
@[simp]
theorem errors_close (block : OpenBlock) :
    (state.close block).errors = state.errors ++ block.opening.headerErrors := by
  unfold close Opening.headerErrors
  rw [OpenBlock.command_eq]
  cases hheader : OpenBlock.header block.kind block.opener with
  | ok make => simp [OpenBlock.opening, hheader, Except.map]
  | error fault => simp [OpenBlock.opening, hheader, Except.map]

/-- A line changes the openings of a reader as it changes those of the outline. -/
theorem openings_feed (line : Line) :
    (state.feed strict line).openings = Outline.follow state.openings line := by
  have hrole := line.role_spec
  unfold feed Outline.follow
  split at hrole
  next hcase =>
    simp only [hcase, hrole, if_true, divide]
    cases hblocks : state.blocks with
    | nil =>
      rw [openings_report]
      simp [openings, hblocks]
    | cons block outer =>
      simp only [openings, hblocks, List.map_cons, block.mayDivide_eq]
      split
      · rfl
      · simp [report, hblocks]
  next terminator hcase =>
    obtain ⟨helse, hclose, _⟩ := hrole
    simp only [hcase, helse, hclose, if_true, if_false, terminate]
    cases hblocks : state.blocks with
    | nil =>
      rw [openings_report]
      simp [openings, hblocks]
    | cons block outer =>
      rw [openings_close]
      simp only [openings, hblocks, List.map_cons, List.tail_cons]
      split <;> rfl
  next kind hcase =>
    obtain ⟨helse, hclose, hopened⟩ := hrole
    simp [hcase, helse, hclose, hopened, openings, OpenBlock.opening]
  next hcase =>
    obtain ⟨helse, hclose, hopened⟩ := hrole
    simp only [hcase, helse, hclose, hopened, if_false]
    cases Instruction.read line.keyword line.arguments <;> simp

/-- A line adds the same structural errors to those of a reader and to those of the outline. -/
theorem structural_feed (line : Line) :
    structural (state.feed strict line).errors =
      structural state.errors ++ Outline.lineErrors strict state.openings line := by
  have hrole := line.role_spec
  unfold feed Outline.lineErrors Outline.fault?
  -- Four cases: the line divides a block, closes one, opens one, or does nothing of these.
  split at hrole
  next hcase =>
    simp only [hcase, hrole, if_true, divide]
    cases hblocks : state.blocks with
    | nil => simp [openings, hblocks, structural, Fault.isStructural]
    | cons block outer =>
      simp only [openings, hblocks, List.map_cons, block.mayDivide_eq]
      split
      · simp
      · simp [structural, Fault.isStructural]
  next terminator hcase =>
    obtain ⟨helse, hclose, hmay⟩ := hrole
    simp only [hcase, helse, hclose, if_true, if_false, terminate]
    cases hblocks : state.blocks with
    | nil => simp [openings, hblocks, structural, Fault.isStructural]
    | cons block outer =>
      rw [errors_close, structural_append, structural_headerErrors, List.append_nil]
      simp only [openings, hblocks, List.map_cons, OpenBlock.opening, hmay]
      by_cases hmismatch :
          strict = true ∧ line.keyword ≠ "end" ∧ line.keyword ≠ block.kind.terminator
      · rw [if_neg (not_not_intro hmismatch), if_pos hmismatch]
        simp [structural, Fault.isStructural]
      · rw [if_pos hmismatch, if_neg hmismatch]
        simp
  next kind hcase =>
    obtain ⟨helse, hclose, _⟩ := hrole
    simp [hcase, helse, hclose]
  next hcase =>
    obtain ⟨helse, hclose, _⟩ := hrole
    simp only [hcase, helse, hclose, if_false, Option.toList_none, List.map_nil, List.append_nil]
    cases hread : Instruction.read line.keyword line.arguments with
    | ok instruction => simp
    | error fault =>
      have hcontent := Instruction.ofContent_read _ _ fault hread
      simp [structural, hcontent]

/-- A reader with one more open block. -/
def inside (block : OpenBlock) : ParseState :=
  { state with blocks := block :: state.blocks }

/-- A source that ends inside a block leaves what closing the block leaves, after the error of the
block. -/
theorem finish_inside (block : OpenBlock) :
    (state.inside block).finish =
      ((state.report block.opener
        (.unterminatedBlock block.kind.opener block.opener.number)).close block).finish := by
  simp only [finish, length_blocks_close]
  rfl

/-- A reader is outside all blocks or inside its innermost one. -/
theorem eq_inside_of_length {n : Nat} (hlength : state.blocks.length = n + 1) :
    ∃ outside block, state = inside outside block ∧ outside.blocks.length = n := by
  obtain ⟨commands, blocks, errors⟩ := state
  obtain ⟨block, outer, rfl⟩ := List.exists_cons_of_length_eq_add_one hlength
  exact ⟨⟨commands, outer, errors⟩, block, rfl, Nat.succ.inj hlength⟩

/-- What the blocks that are still open at the end of the source add to the errors. -/
theorem errors_finish :
    state.finish.errors =
      state.errors ++ state.openings.flatMap fun opening => opening.unclosed :: opening.headerErrors := by
  induction hlength : state.blocks.length generalizing state with
  | zero =>
    have hblocks := List.eq_nil_of_length_eq_zero hlength
    simp [finish, abandonAll, openings, hblocks]
  | succ n ih =>
    obtain ⟨outside, block, rfl, houtside⟩ := state.eq_inside_of_length hlength
    have hclosed (fault : Fault) :
        ((outside.report block.opener fault).close block).blocks.length = n := by
      rw [length_blocks_close]
      exact houtside
    rw [finish_inside, ih _ (hclosed _), openings_close, errors_close, errors_report, openings_report]
    simp [inside, openings, OpenBlock.opening, Opening.unclosed]

/-- At the end of a source every block that is open is reported, and nothing else about the nesting. -/
theorem structural_finish :
    structural state.finish.errors =
      structural state.errors ++ state.openings.map Opening.unclosed := by
  have hunclosed (openings : List Opening) :
      structural (openings.flatMap fun opening => opening.unclosed :: opening.headerErrors) =
        openings.map Opening.unclosed := by
    induction openings with
    | nil => rfl
    | cons opening outer ih =>
      rw [List.flatMap_cons, structural_append, ih, List.map_cons, ← List.singleton_append,
        structural_append, structural_headerErrors]
      rfl
  rw [errors_finish, structural_append, hunclosed]

/-- From any state on, the structural errors are those of the outline. -/
theorem structural_foldl (lines : List Line) :
    structural (lines.foldl (feed strict) state).finish.errors =
      structural state.errors ++ Outline.errors strict state.openings lines := by
  induction lines generalizing state with
  | nil => exact structural_finish state
  | cons line rest ih =>
    rw [List.foldl_cons, ih, structural_feed, openings_feed, List.append_assoc]
    rfl

end ParseState

end TouchScript
