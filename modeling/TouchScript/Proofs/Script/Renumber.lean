import TouchScript.Proofs.Script.Outline

namespace TouchScript

/-- The line with another number. While a script is read the number is only copied: to the command
of the line, to its errors, and into the faults that name the line on which a block was opened. -/
def Line.renumber (f : Nat → Nat) (line : Line) : Line :=
  { line with number := f line.number }

/-- The fault with another number for the line that it names. -/
def Fault.renumber (f : Nat → Nat) : Fault → Fault
  | .mismatchedTerminator found opener openedAt => .mismatchedTerminator found opener (f openedAt)
  | .unterminatedBlock opener openedAt => .unterminatedBlock opener (f openedAt)
  | fault => fault

/-- The error with other numbers for its line and for the line that its fault names. -/
def ParseError.renumber (f : Nat → Nat) (e : ParseError) : ParseError :=
  ⟨f e.line, e.text, e.fault.renumber f⟩

/-- Only faults of nesting name a line. -/
theorem Fault.renumber_of_content {fault : Fault} (f : Nat → Nat) (hcontent : fault.isStructural = false) :
    fault.renumber f = fault := by
  cases fault with
  | mismatchedTerminator found opener openedAt => cases hcontent
  | unterminatedBlock opener openedAt => cases hcontent
  | _ => rfl

namespace Command

mutual

/-- The command with other numbers, in its blocks too. -/
def renumber (f : Nat → Nat) : Command → Command
  | .leaf line instruction => .leaf (f line) instruction
  | .branch line condition thenBlock elseBlock =>
    .branch (f line) condition (renumberAll f thenBlock) (renumberAll f elseBlock)
  | .loop line condition body => .loop (f line) condition (renumberAll f body)
  | .counted line count counter body => .counted (f line) count counter (renumberAll f body)
  | .function line name body => .function (f line) name (renumberAll f body)

/-- The sequence with other numbers. -/
def renumberAll (f : Nat → Nat) : List Command → List Command
  | [] => []
  | command :: rest => renumber f command :: renumberAll f rest

end

/-- Two sequences are renumbered one by one. -/
theorem renumberAll_append (f : Nat → Nat) (commands more : List Command) :
    renumberAll f (commands ++ more) = renumberAll f commands ++ renumberAll f more := by
  induction commands with
  | nil => rfl
  | cons command rest ih => rw [List.cons_append, renumberAll, renumberAll, ih, List.cons_append]

/-- So is a command at the end of a sequence. -/
theorem renumberAll_concat (f : Nat → Nat) (commands : List Command) (command : Command) :
    renumberAll f (commands ++ [command]) = renumberAll f commands ++ [command.renumber f] :=
  renumberAll_append f commands [command]

end Command

open Command

namespace OpenBlock

/-- The block with other numbers. -/
def renumber (f : Nat → Nat) (block : OpenBlock) : OpenBlock :=
  ⟨block.kind, block.opener.renumber f, renumberAll f block.body, block.otherwise.map (renumberAll f)⟩

variable (f : Nat → Nat) (block : OpenBlock)

/-- A command in a block is renumbered with the block. -/
theorem renumber_add (command : Command) :
    (block.add command).renumber f = (block.renumber f).add (command.renumber f) := by
  obtain ⟨kind, opener, body, otherwise⟩ := block
  cases otherwise with
  | none => simp [add, renumber, renumberAll_concat]
  | some part => simp [add, renumber, renumberAll_concat]

/-- The numbers do not say whether an `else` may come. -/
theorem mayDivide_renumber : (block.renumber f).mayDivide = block.mayDivide := by
  simp [mayDivide, renumber]

/-- The first line of a block makes the same command with other numbers, or has the same fault. -/
theorem command_renumber :
    (block.renumber f).command = block.command.map (Command.renumber f) := by
  obtain ⟨kind, opener, body, otherwise⟩ := block
  have hparts : (otherwise.map (renumberAll f)).getD [] = renumberAll f (otherwise.getD []) := by
    cases otherwise <;> rfl
  have hrest : (opener.renumber f).rest = opener.rest := rfl
  have harguments : (opener.renumber f).arguments = opener.arguments := rfl
  cases kind with
  | branch | loop =>
    simp only [command, renumber, hrest, hparts]
    split
    · rfl
    · rfl
  | counted =>
    simp only [command, renumber, harguments]
    cases readCount opener.arguments with
    | ok header => rfl
    | error fault => rfl
  | function =>
    simp only [command, renumber, harguments]
    split
    · rfl
    · rfl

end OpenBlock

namespace ParseState

/-- The reader with other numbers. -/
def renumber (f : Nat → Nat) (state : ParseState) : ParseState :=
  ⟨renumberAll f state.commands, state.blocks.map (OpenBlock.renumber f),
    state.errors.map (ParseError.renumber f)⟩

variable (strict : Bool) (f : Nat → Nat) (state : ParseState)

/-- A report is made with the number of its line. -/
theorem renumber_report (line : Line) (fault : Fault) :
    (state.report line fault).renumber f = (state.renumber f).report (line.renumber f) (fault.renumber f) := by
  simp [report, renumber, ParseError.renumber, Line.renumber]

/-- A command that is added is renumbered with the reader. -/
theorem renumber_add (command : Command) :
    (state.add command).renumber f = (state.renumber f).add (command.renumber f) := by
  obtain ⟨commands, blocks, errors⟩ := state
  cases blocks with
  | nil => simp [add, renumber, renumberAll_concat]
  | cons block outer => simp [add, renumber, OpenBlock.renumber_add]

/-- So is a block that is closed, or the fault of its header. -/
theorem renumber_close (block : OpenBlock) :
    (state.close block).renumber f = (state.renumber f).close (block.renumber f) := by
  unfold close
  rw [OpenBlock.command_renumber]
  cases hcommand : block.command with
  | ok command => exact renumber_add f state command
  | error fault =>
    have hcontent := OpenBlock.ofContent_command block fault hcommand
    have hreport := renumber_report f state block.opener fault
    rw [Fault.renumber_of_content f hcontent] at hreport
    exact hreport

/-- An `else` divides the same block, or is reported with its number. -/
theorem renumber_divide (line : Line) :
    (state.divide line).renumber f = (state.renumber f).divide (line.renumber f) := by
  obtain ⟨commands, blocks, errors⟩ := state
  cases blocks with
  | nil => exact renumber_report f _ line _
  | cons block outer =>
    have hdivide := block.mayDivide_renumber f
    simp only [divide, renumber, List.map_cons, hdivide]
    split
    · rfl
    · exact renumber_report f ⟨commands, block :: outer, errors⟩ line _

/-- A terminator closes the innermost block, and is reported if it may not close it. -/
theorem terminate_inside (block : OpenBlock) (line : Line) (terminator : Option BlockKind) :
    (state.inside block).terminate strict line terminator =
      (if mayClose strict terminator block.kind then state
        else state.report line
          (.mismatchedTerminator line.keyword block.kind.opener block.opener.number)).close block := rfl

/-- A terminator of another block names the line on which the block was opened, by its new number. -/
theorem renumber_terminate (line : Line) (terminator : Option BlockKind) :
    (state.terminate strict line terminator).renumber f =
      (state.renumber f).terminate strict (line.renumber f) terminator := by
  obtain ⟨commands, blocks, errors⟩ := state
  cases blocks with
  | nil => exact renumber_report f _ line _
  | cons block outer =>
    change (terminate strict (inside ⟨commands, outer, errors⟩ block) line terminator).renumber f =
      terminate strict ((renumber f ⟨commands, outer, errors⟩).inside (block.renumber f)) _ terminator
    rw [terminate_inside, terminate_inside, renumber_close, apply_ite (renumber f), renumber_report]
    rfl

/-- Reading a line with another number. -/
theorem renumber_feed (line : Line) :
    (state.feed strict line).renumber f = (state.renumber f).feed strict (line.renumber f) := by
  have hrole : (line.renumber f).role = line.role := rfl
  have hkeyword : (line.renumber f).keyword = line.keyword := rfl
  have harguments : (line.renumber f).arguments = line.arguments := rfl
  unfold feed
  rw [hrole]
  split
  · rfl
  · exact renumber_divide f state line
  · exact renumber_terminate strict f state line _
  · rw [hkeyword, harguments]
    cases hread : Instruction.read line.keyword line.arguments with
    | ok instruction => exact renumber_add f state _
    | error fault =>
      have hreport := renumber_report f state line fault
      rw [Fault.renumber_of_content f (Instruction.ofContent_read _ _ fault hread)] at hreport
      exact hreport

/-- So does the error of a block that is never closed. -/
theorem renumber_abandon : state.abandon.renumber f = (state.renumber f).abandon := by
  obtain ⟨commands, blocks, errors⟩ := state
  cases blocks with
  | nil => rfl
  | cons block outer =>
    have hclose := renumber_close f (report ⟨commands, outer, errors⟩ block.opener
      (.unterminatedBlock block.kind.opener block.opener.number)) block
    rw [renumber_report] at hclose
    exact hclose

/-- What goes along with abandoning one block goes along with abandoning several. -/
theorem abandonAll_hom {g : ParseState → ParseState} (hg : ∀ state, g state.abandon = (g state).abandon)
    (n : Nat) : g (abandonAll n state) = abandonAll n (g state) := by
  induction n generalizing state with
  | zero => rfl
  | succ n ih => rw [abandonAll, ih, hg, abandonAll]

end ParseState

namespace Script

/-- The script with other numbers. -/
def renumber (f : Nat → Nat) (script : Script) : Script :=
  ⟨renumberAll f script.commands, script.errors.map (ParseError.renumber f)⟩

/-- Lines with other numbers give the same script with other numbers. -/
theorem ofLines_renumber (strict : Bool) (f : Nat → Nat) (lines : List Line) :
    ofLines strict (lines.map (Line.renumber f)) = (ofLines strict lines).renumber f := by
  have hfold : (lines.map (Line.renumber f)).foldl (ParseState.feed strict) ParseState.start =
      (lines.foldl (ParseState.feed strict) ParseState.start).renumber f := by
    rw [List.foldl_map]
    change lines.foldl _ (ParseState.start.renumber f) = _
    exact List.foldl_hom (ParseState.renumber f) fun state line =>
      (ParseState.renumber_feed strict f state line).symm
  have hlength (state : ParseState) : (state.renumber f).blocks.length = state.blocks.length :=
    List.length_map _
  rw [ofLines, hfold, ofLines, ParseState.finish, ParseState.finish, hlength,
    ← ParseState.abandonAll_hom _ (ParseState.renumber_abandon f)]
  rfl

end Script

end TouchScript
