import TouchScript.Proofs.Script.Renumber

namespace TouchScript

namespace ParseState

/-- The reader without the errors that are set aside. It only ever adds to its list of errors, so it
makes no difference whether they are set aside before or after a step that reports none of them. -/
def sift (keep : ParseError → Bool) (state : ParseState) : ParseState :=
  { state with errors := state.errors.filter keep }

variable {keep : ParseError → Bool} (state : ParseState)

/-- An error that is not set aside is reported before or after. -/
theorem sift_report {line : Line} {fault : Fault} (hkeep : keep ⟨line.number, line.text, fault⟩ = true) :
    (state.report line fault).sift keep = (state.sift keep).report line fault := by
  simp [sift, report, List.filter_append, hkeep]

/-- An error that is set aside might not have been reported. -/
theorem sift_report_of_not {line : Line} {fault : Fault}
    (hkeep : keep ⟨line.number, line.text, fault⟩ = false) :
    (state.report line fault).sift keep = state.sift keep := by
  simp [sift, report, List.filter_append, hkeep]

/-- A command is added where the reader stands, and that is no matter of errors. -/
theorem sift_add (command : Command) :
    (state.add command).sift keep = (state.sift keep).add command := by
  obtain ⟨commands, blocks, errors⟩ := state
  cases blocks <;> rfl

/-- A block is closed alike if no fault of its header is set aside. -/
theorem sift_close {block : OpenBlock}
    (hkeep : ∀ fault, block.command = .error fault →
      keep ⟨block.opener.number, block.opener.text, fault⟩ = true) :
    (state.close block).sift keep = (state.sift keep).close block := by
  unfold close
  cases hcommand : block.command with
  | ok command => exact sift_add state command
  | error fault => exact sift_report state (hkeep fault hcommand)

/-- An `else` divides the same block, and is reported if it is out of place. -/
theorem sift_divide {line : Line} (hkeep : keep ⟨line.number, line.text, .unexpectedElse⟩ = true) :
    (state.divide line).sift keep = (state.sift keep).divide line := by
  obtain ⟨commands, blocks, errors⟩ := state
  cases blocks with
  | nil => exact sift_report _ hkeep
  | cons block outer =>
    unfold divide
    dsimp only [sift]
    split
    · rfl
    · exact sift_report ⟨commands, block :: outer, errors⟩ hkeep

/-- A block is left open alike if neither this nor a fault of its header is set aside. -/
theorem sift_abandon_inside {block : OpenBlock}
    (hunclosed : keep ⟨block.opener.number, block.opener.text,
      .unterminatedBlock block.kind.opener block.opener.number⟩ = true)
    (hkeep : ∀ fault, block.command = .error fault →
      keep ⟨block.opener.number, block.opener.text, fault⟩ = true) :
    (state.inside block).abandon.sift keep = ((state.sift keep).inside block).abandon := by
  change ((state.report block.opener _).close block).sift keep = ((state.sift keep).report _ _).close block
  rw [sift_close _ hkeep, sift_report _ hunclosed]

end ParseState

/-- Whether no error of this line is set aside. -/
def Line.Spared (keep : ParseError → Bool) (line : Line) : Prop :=
  ∀ fault, keep ⟨line.number, line.text, fault⟩ = true

namespace ParseState

variable {keep : ParseError → Bool} (strict : Bool) (state : ParseState)

/-- A terminator closes the same block if no error of the lines involved is set aside. -/
theorem sift_terminate {line : Line} (hline : line.Spared keep)
    (hopen : ∀ opening ∈ state.openings, opening.line.Spared keep) (terminator : Option BlockKind) :
    (state.terminate strict line terminator).sift keep =
      (state.sift keep).terminate strict line terminator := by
  obtain ⟨commands, blocks, errors⟩ := state
  cases blocks with
  | nil => exact sift_report _ (hline _)
  | cons block outer =>
    have hblock : block.opener.Spared keep := hopen block.opening (.head _)
    change (terminate strict (inside ⟨commands, outer, errors⟩ block) line terminator).sift keep =
      terminate strict ((sift keep ⟨commands, outer, errors⟩).inside block) line terminator
    rw [terminate_inside, terminate_inside, sift_close _ fun fault _ => hblock fault,
      apply_ite (sift keep), sift_report _ (hline _)]

/-- Setting errors aside before or after a line, if none of them is an error of that line or of the
first line of an open block. -/
theorem sift_feed {line : Line} (hline : line.Spared keep)
    (hopen : ∀ opening ∈ state.openings, opening.line.Spared keep) :
    (state.feed strict line).sift keep = (state.sift keep).feed strict line := by
  unfold feed
  split
  · rfl
  · exact sift_divide state (hline _)
  · exact sift_terminate strict state hline hopen _
  · cases Instruction.read line.keyword line.arguments with
    | ok instruction => exact sift_add state _
    | error fault => exact sift_report state (hline fault)

/-- Setting errors aside before or after the end, if none of them is an error of the first line of an
open block. -/
theorem sift_finish (hopen : ∀ opening ∈ state.openings, opening.line.Spared keep) :
    (state.sift keep).finish = ⟨state.finish.commands, state.finish.errors.filter keep⟩ := by
  induction hlength : state.blocks.length generalizing state with
  | zero =>
    obtain ⟨commands, blocks, errors⟩ := state
    obtain rfl : blocks = [] := List.eq_nil_of_length_eq_zero hlength
    rfl
  | succ n ih =>
    obtain ⟨outside, block, rfl, houtside⟩ := state.eq_inside_of_length hlength
    have hblock : block.opener.Spared keep := hopen block.opening (.head _)
    generalize hclosed : (outside.report block.opener
      (.unterminatedBlock block.kind.opener block.opener.number)).close block = closed
    have hsift : closed.sift keep = ((outside.sift keep).report block.opener
        (.unterminatedBlock block.kind.opener block.opener.number)).close block := by
      rw [← hclosed, sift_close _ fun fault _ => hblock fault, sift_report _ (hblock _)]
    have hopenings : closed.openings = outside.openings := by
      rw [← hclosed, openings_close, openings_report]
    have hblocks : closed.blocks.length = n := by
      rw [← hclosed, length_blocks_close]
      exact houtside
    have hinside : (outside.inside block).sift keep = (outside.sift keep).inside block := rfl
    rw [hinside, finish_inside, finish_inside, ← hsift, hclosed]
    refine ih closed (fun opening hopening => hopen opening ?_) hblocks
    rw [hopenings] at hopening
    exact .tail _ hopening

end ParseState

end TouchScript
