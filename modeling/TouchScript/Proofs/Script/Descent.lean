import TouchScript.Proofs.Script.Outline
import TouchScript.Proofs.Script.RoundTrip

namespace TouchScript

namespace Descent

/-- Why a sequence ends: with the source, or at a line that divides or closes the block it is a part
of. In the latter cases the lines after that one are left. -/
inductive Stop where
  | exhausted
  | divider (line : Line) (rest : List Line) (hrole : line.role = .divides)
  | terminator (line : Line) (kind : Option BlockKind) (rest : List Line)
      (hrole : line.role = .closes kind)

/-- The lines from the one at which a sequence ends. -/
def Stop.left : Stop → List Line
  | .exhausted => []
  | .divider line rest _ | .terminator line _ rest _ => line :: rest

/-- A sequence at the beginning of some lines. -/
structure Sequence (lines : List Line) where
  commands : List Command
  errors : List ParseError
  stop : Stop
  left_le : stop.left.length ≤ lines.length

/-- A block whose remaining part stands at the beginning of some lines. -/
structure Block (lines : List Line) where
  block : OpenBlock
  errors : List ParseError
  left : List Line
  left_le : left.length ≤ lines.length

/-- The error of a line that should have given a command. -/
def errorsOf (line : Line) : Except Fault Command → List ParseError
  | .ok _ => []
  | .error fault => [⟨line.number, line.text, fault⟩]

/-- The error of a terminator that may not close a block. -/
def mismatch (strict : Bool) (block : OpenBlock) (line : Line) (kind : Option BlockKind) :
    List ParseError :=
  if ParseState.mayClose strict kind block.kind then []
  else
    [⟨line.number, line.text,
      .mismatchedTerminator line.keyword block.kind.opener block.opener.number⟩]

/-- A block after a dividing line, and the error of that line. -/
def divide (block : OpenBlock) (line : Line) : OpenBlock × List ParseError :=
  if block.mayDivide then ({ block with otherwise := some [] }, [])
  else (block, [⟨line.number, line.text, .unexpectedElse⟩])

mutual

/-- Reads a sequence, without a stack: up to the line that ends it, and where a line opens a block
the block first. -/
def sequence (strict : Bool) (lines : List Line) : Sequence lines :=
  match lines with
  | [] => ⟨[], [], .exhausted, Nat.le_refl 0⟩
  | line :: rest =>
    match hrole : line.role with
    | .divides => ⟨[], [], .divider line rest hrole, Nat.le_refl _⟩
    | .closes kind => ⟨[], [], .terminator line kind rest hrole, Nat.le_refl _⟩
    | .opens kind =>
      let inner := block strict ⟨kind, line, [], none⟩ rest
      let result := inner.block.command
      let after := sequence strict inner.left
      ⟨result.toOption.toList ++ after.commands,
        inner.errors ++ errorsOf inner.block.opener result ++ after.errors, after.stop,
        Nat.le_succ_of_le (Nat.le_trans after.left_le inner.left_le)⟩
    | .leaf =>
      let result := (Instruction.read line.keyword line.arguments).map (.leaf line.number)
      let after := sequence strict rest
      ⟨result.toOption.toList ++ after.commands, errorsOf line result ++ after.errors, after.stop,
        Nat.le_succ_of_le after.left_le⟩
termination_by (lines.length, 0)
decreasing_by
  · exact Prod.Lex.left _ _ (Nat.lt_succ_self _)
  · exact Prod.Lex.left _ _ (Nat.lt_succ_of_le inner.left_le)
  · exact Prod.Lex.left _ _ (Nat.lt_succ_self _)

/-- Reads the rest of a block, one sequence after the other. -/
def block (strict : Bool) (before : OpenBlock) (lines : List Line) : Block lines :=
  let part := sequence strict lines
  let filled := part.commands.foldl OpenBlock.add before
  match hstop : part.stop with
  | .exhausted => ⟨filled, part.errors ++ [filled.opening.unclosed], [], Nat.zero_le _⟩
  | .terminator line kind rest _ =>
    have hle : rest.length + 1 ≤ lines.length := by simpa [hstop, Stop.left] using part.left_le
    ⟨filled, part.errors ++ mismatch strict filled line kind, rest, Nat.le_of_succ_le hle⟩
  | .divider line rest _ =>
    have hle : rest.length + 1 ≤ lines.length := by simpa [hstop, Stop.left] using part.left_le
    let (divided, errors) := divide filled line
    let after := block strict divided rest
    ⟨after.block, part.errors ++ (errors ++ after.errors), after.left,
      Nat.le_trans after.left_le (Nat.le_of_succ_le hle)⟩
termination_by (lines.length, 1)
decreasing_by
  · exact Prod.Lex.right _ Nat.zero_lt_one
  · exact Prod.Lex.left _ _ hle

end

/-- Reads a script: where nothing is open, a line that divides or closes a block only leaves an
error. -/
def script (strict : Bool) (before : Script) (lines : List Line) : Script :=
  let part := sequence strict lines
  let commands := before.commands ++ part.commands
  let errors := before.errors ++ part.errors
  match hstop : part.stop with
  | .exhausted => ⟨commands, errors⟩
  | .divider line rest _ =>
    have hlt : rest.length + 1 ≤ lines.length := by simpa [hstop, Stop.left] using part.left_le
    script strict ⟨commands, errors ++ [⟨line.number, line.text, .unexpectedElse⟩]⟩ rest
  | .terminator line _ rest _ =>
    have hlt : rest.length + 1 ≤ lines.length := by simpa [hstop, Stop.left] using part.left_le
    script strict
      ⟨commands, errors ++ [⟨line.number, line.text, .unexpectedTerminator line.keyword⟩]⟩ rest
termination_by lines.length

end Descent

namespace ParseState

/-- What a reader makes of the lines that follow. -/
def read (strict : Bool) (state : ParseState) (lines : List Line) : Script :=
  (lines.foldl (feed strict) state).finish

theorem read_cons (strict : Bool) (state : ParseState) (line : Line) (rest : List Line) :
    state.read strict (line :: rest) = (state.feed strict line).read strict rest := rfl

/-- Adds commands where a reader stands, and errors. -/
def absorb (state : ParseState) (commands : List Command) (errors : List ParseError) : ParseState :=
  { commands.foldl add state with errors := state.errors ++ errors }

variable (strict : Bool) (state : ParseState)

/-- Commands are added where a reader stands, whatever its errors are. -/
theorem foldl_add_withErrors (commands : List Command) (errors : List ParseError) :
    commands.foldl add { state with errors := errors } =
      { commands.foldl add state with errors := errors } := by
  have hadd (state : ParseState) (command : Command) :
      add { state with errors := errors } command = { state.add command with errors := errors } := by
    unfold add
    cases state.blocks <;> rfl
  induction commands generalizing state with
  | nil => rfl
  | cons command rest ih => rw [List.foldl_cons, hadd, ih, List.foldl_cons]

theorem absorb_nil : state.absorb [] [] = state := by
  simp [absorb]

/-- Commands and errors are taken up in portions. -/
theorem absorb_absorb (commands more : List Command) (errors others : List ParseError) :
    (state.absorb commands errors).absorb more others =
      state.absorb (commands ++ more) (errors ++ others) := by
  simp only [absorb, foldl_add_withErrors, List.foldl_append, List.append_assoc]

/-- To add a command is to take up no error. -/
theorem add_eq_absorb (command : Command) : state.add command = state.absorb [command] [] := by
  have herrors := errors_add state command
  unfold absorb
  rw [List.append_nil, ← herrors]
  rfl

theorem report_eq_absorb (line : Line) (fault : Fault) :
    state.report line fault = state.absorb [] [⟨line.number, line.text, fault⟩] := rfl

/-- A block that is closed is taken up as its command, or as the error of its header. -/
theorem close_eq_absorb (block : OpenBlock) :
    state.close block =
      state.absorb block.command.toOption.toList (Descent.errorsOf block.opener block.command) := by
  unfold close
  cases block.command with
  | ok command => exact add_eq_absorb state command
  | error fault => exact report_eq_absorb state block.opener fault

/-- Inside of a block commands go to the block and errors to the script. -/
theorem absorb_inside (block : OpenBlock) (commands : List Command) (errors : List ParseError) :
    (state.inside block).absorb commands errors =
      (state.absorb [] errors).inside (commands.foldl OpenBlock.add block) := by
  have hfold : commands.foldl add (state.inside block) =
      state.inside (commands.foldl OpenBlock.add block) := by
    induction commands generalizing block with
    | nil => rfl
    | cons command rest ih => exact ih (block.add command)
  rw [absorb, hfold]
  rfl

/-- A line with an instruction is taken up as its command, or as its error. -/
theorem feed_of_leaf {line : Line} (hrole : line.role = .leaf) :
    state.feed strict line =
      let result := (Instruction.read line.keyword line.arguments).map (Command.leaf line.number)
      state.absorb result.toOption.toList (Descent.errorsOf line result) := by
  unfold feed
  rw [hrole]
  cases Instruction.read line.keyword line.arguments with
  | ok instruction => exact add_eq_absorb state _
  | error fault => exact report_eq_absorb state line fault

/-- A dividing line changes the innermost block, or leaves an error. -/
theorem feed_of_divides {line : Line} (block : OpenBlock) (hrole : line.role = .divides) :
    (state.inside block).feed strict line =
      (state.absorb [] (Descent.divide block line).2).inside (Descent.divide block line).1 := by
  unfold feed divide Descent.divide
  rw [hrole]
  dsimp only [inside]
  split
  · simp [absorb]
  · rfl

/-- A closing line closes the innermost block, with an error if it is not the right one. -/
theorem feed_of_closes {line : Line} {kind : Option BlockKind} (block : OpenBlock)
    (hrole : line.role = .closes kind) :
    (state.inside block).feed strict line =
      (state.absorb [] (Descent.mismatch strict block line kind)).close block := by
  unfold feed terminate Descent.mismatch
  rw [hrole]
  dsimp only [inside]
  split
  · rw [absorb_nil]
  · rfl

mutual

/-- A reader makes of some lines what it makes of the sequence at their beginning and of the lines
that are left, wherever it stands. -/
theorem read_sequence (lines : List Line) (state : ParseState) :
    state.read strict lines =
      (state.absorb (Descent.sequence strict lines).commands (Descent.sequence strict lines).errors).read
        strict (Descent.sequence strict lines).stop.left := by
  cases lines with
  | nil => simp [Descent.sequence, absorb_nil, Descent.Stop.left]
  | cons line rest =>
    rw [Descent.sequence]
    split
    next hrole => rw [absorb_nil]; rfl
    next kind hrole => rw [absorb_nil]; rfl
    next kind hrole =>
      have hfeed : state.feed strict line = state.inside ⟨kind, line, [], none⟩ := by
        simp only [feed, hrole, inside]
      have hle := (Descent.block strict ⟨kind, line, [], none⟩ rest).left_le
      rw [read_cons, hfeed, read_block, close_eq_absorb, absorb_absorb, read_sequence, absorb_absorb]
      rfl
    next hrole =>
      rw [read_cons, feed_of_leaf strict state hrole, read_sequence rest, absorb_absorb]
termination_by (lines.length, 0)

/-- Inside a block, a reader makes of some lines what it makes of the closed block and of the lines
after it. -/
theorem read_block (lines : List Line) (block : OpenBlock) (state : ParseState) :
    (state.inside block).read strict lines =
      ((state.absorb [] (Descent.block strict block lines).errors).close
        (Descent.block strict block lines).block).read strict (Descent.block strict block lines).left := by
  rw [read_sequence, absorb_inside, Descent.block]
  dsimp only
  split
  next hstop =>
    rw [hstop, Descent.Stop.left]
    simp only [read, List.foldl_nil]
    rw [finish_inside, report_eq_absorb, absorb_absorb]
    rfl
  next line kind rest hrole hstop =>
    have hleft : (Descent.sequence strict lines).stop.left = line :: rest := by
      rw [hstop, Descent.Stop.left]
    rw [hleft, read_cons, feed_of_closes strict _ _ hrole, absorb_absorb]
    rfl
  next line rest hrole hstop =>
    have hleft : (Descent.sequence strict lines).stop.left = line :: rest := by
      rw [hstop, Descent.Stop.left]
    have hle : rest.length + 1 ≤ lines.length := by
      simpa [hleft] using (Descent.sequence strict lines).left_le
    rw [hleft, read_cons, feed_of_divides strict _ _ hrole, read_block rest, absorb_absorb,
      absorb_absorb]
    rfl
termination_by (lines.length, 1)

end

end ParseState

namespace Script

end Script

end TouchScript
