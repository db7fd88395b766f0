import TouchScript.Proofs.Script.Sift

namespace TouchScript

/-- Whether a terminator of another kind of block was found. -/
def Fault.isMismatch : Fault → Bool
  | .mismatchedTerminator _ _ _ => true
  | _ => false

/-- A fault of content is no wrong terminator. -/
theorem Fault.isMismatch_of_content {fault : Fault} (hcontent : fault.isStructural = false) :
    fault.isMismatch = false := by
  cases fault with
  | mismatchedTerminator found opener openedAt => cases hcontent
  | _ => rfl

/-- The errors without those of wrong terminators. -/
def forgiven (errors : List ParseError) : List ParseError :=
  errors.filter fun e => !e.fault.isMismatch

namespace ParseState

/-- The reader without the errors of wrong terminators. They are all that strict terminators add, as
a wrong one closes the innermost block in any case. -/
def forgive (state : ParseState) : ParseState :=
  { state with errors := forgiven state.errors }

variable (state : ParseState)

/-- Every other error is kept. -/
theorem forgive_report (line : Line) {fault : Fault} (hfault : fault.isMismatch = false) :
    (state.report line fault).forgive = state.forgive.report line fault :=
  sift_report state (by simp [hfault])

/-- The error of a wrong terminator is not. -/
theorem forgive_report_mismatch (line : Line) (found opener : String) (openedAt : Nat) :
    (state.report line (.mismatchedTerminator found opener openedAt)).forgive = state.forgive :=
  sift_report_of_not state rfl

/-- A block is closed alike, as its header is no matter of terminators. -/
theorem forgive_close (block : OpenBlock) : (state.close block).forgive = state.forgive.close block := by
  refine sift_close state fun fault hcommand => ?_
  have hcontent := OpenBlock.ofContent_command block fault hcommand
  simp [Fault.isMismatch_of_content hcontent]

/-- A strict reader closes the block that a lenient one closes. -/
theorem forgive_terminate (line : Line) (terminator : Option BlockKind) :
    (state.terminate true line terminator).forgive = state.forgive.terminate false line terminator := by
  obtain ⟨commands, blocks, errors⟩ := state
  cases blocks with
  | nil => exact forgive_report _ line rfl
  | cons block outer =>
    change (terminate true (inside ⟨commands, outer, errors⟩ block) line terminator).forgive =
      terminate false ((forgive ⟨commands, outer, errors⟩).inside block) line terminator
    have hlenient : mayClose false terminator block.kind = true := rfl
    rw [terminate_inside, terminate_inside, forgive_close, hlenient, if_pos rfl]
    split
    · rfl
    · rw [forgive_report_mismatch]

/-- After a line, the strict reader differs from the lenient one in these errors only. -/
theorem forgive_feed (line : Line) : (state.feed true line).forgive = state.forgive.feed false line := by
  unfold feed
  split
  · rfl
  · exact sift_divide state rfl
  · exact forgive_terminate state line _
  · cases hread : Instruction.read line.keyword line.arguments with
    | ok instruction => exact sift_add state _
    | error fault =>
      exact forgive_report state line
        (Fault.isMismatch_of_content (Instruction.ofContent_read _ _ fault hread))

/-- So it does after a block that is left open. -/
theorem forgive_abandon : state.abandon.forgive = state.forgive.abandon := by
  obtain ⟨commands, blocks, errors⟩ := state
  cases blocks with
  | nil => rfl
  | cons block outer =>
    refine sift_abandon_inside ⟨commands, outer, errors⟩ rfl fun fault hcommand => ?_
    have hcontent := OpenBlock.ofContent_command block fault hcommand
    simp [Fault.isMismatch_of_content hcontent]

end ParseState

namespace Script

/-- Reading with lenient terminators gives the commands of reading with strict ones, and the same errors
in the same order but for those of terminators that close a block of another kind. -/
theorem parse_lenient (source : String) :
    parse false source =
      ⟨(parse true source).commands,
        (parse true source).errors.filter fun e => !e.fault.isMismatch⟩ := by
  generalize hstate : (Line.ofSource source).foldl (ParseState.feed true) ParseState.start = state
  have hfold : (Line.ofSource source).foldl (ParseState.feed false) ParseState.start = state.forgive := by
    rw [← hstate]
    change (Line.ofSource source).foldl (ParseState.feed false) ParseState.start.forgive = _
    exact List.foldl_hom ParseState.forgive fun state line => (ParseState.forgive_feed state line).symm
  have hlast := state.abandonAll_hom ParseState.forgive_abandon state.blocks.length
  rw [parse, ofLines, hfold, parse, ofLines, hstate]
  exact congrArg (fun last => Script.mk last.commands last.errors) hlast.symm

end Script

end TouchScript
