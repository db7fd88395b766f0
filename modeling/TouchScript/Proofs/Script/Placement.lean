import TouchScript.Proofs.Script.Outline
import TouchScript.Proofs.Script.Render

namespace TouchScript

/-- A command at its place in a tree: its line, its keyword, and the commands around it, innermost
first, each given by its line and by whether the place is in its second part. So the places of a
script show its whole tree. -/
structure Placement where
  line : Nat
  keyword : String
  around : List (Nat × Bool)
deriving DecidableEq

namespace Command

mutual

/-- The places of a command and of the commands in its blocks, in the order of the lines. -/
def placements (around : List (Nat × Bool)) : Command → List Placement
  | .leaf line instruction => [⟨line, instruction.keyword, around⟩]
  | .branch line _ thenBlock elseBlock =>
    ⟨line, BlockKind.branch.opener, around⟩ ::
      (placementsOf ((line, false) :: around) thenBlock ++ placementsOf ((line, true) :: around) elseBlock)
  | .loop line _ body =>
    ⟨line, BlockKind.loop.opener, around⟩ :: placementsOf ((line, false) :: around) body
  | .counted line _ _ body =>
    ⟨line, BlockKind.counted.opener, around⟩ :: placementsOf ((line, false) :: around) body
  | .function line _ body =>
    ⟨line, BlockKind.function.opener, around⟩ :: placementsOf ((line, false) :: around) body

/-- The places of the commands of a sequence and of those in their blocks. -/
def placementsOf (around : List (Nat × Bool)) : List Command → List Placement
  | [] => []
  | command :: rest => placements around command ++ placementsOf around rest

end

/-- The places of two sequences in one block are those of both. -/
theorem placementsOf_append (around : List (Nat × Bool)) (commands more : List Command) :
    placementsOf around (commands ++ more) = placementsOf around commands ++ placementsOf around more := by
  induction commands with
  | nil => rfl
  | cons command rest ih =>
    rw [List.cons_append, placementsOf, placementsOf, ih, List.append_assoc]

/-- The places of one command as a sequence. -/
theorem placementsOf_singleton (around : List (Nat × Bool)) (command : Command) :
    placementsOf around [command] = command.placements around := by
  simp [placementsOf]

/-- The places in a command, said by its parts. -/
theorem placements_eq (around : List (Nat × Bool)) (command : Command) :
    command.placements around = ⟨command.line, command.keyword, around⟩ ::
      (placementsOf ((command.line, false) :: around) command.parts.1 ++
        placementsOf ((command.line, true) :: around) command.parts.2) := by
  cases command <;> simp [placements, placementsOf, line, keyword, parts, BlockKind.opener]

mutual

/-- The places of a tree are those of its commands in their order. -/
theorem map_placements (around : List (Nat × Bool)) : ∀ command : Command,
    (command.placements around).map (fun p => (p.line, p.keyword)) =
      command.all.map fun c => (c.line, c.keyword)
  | .leaf _ _ => rfl
  | .branch _ _ thenBlock elseBlock => by
    simp only [placements, all, List.map_cons, List.map_append, map_placementsOf _ thenBlock,
      map_placementsOf _ elseBlock]
    rfl
  | .loop _ _ body | .counted _ _ _ body | .function _ _ body => by
    simp only [placements, all, List.map_cons, map_placementsOf _ body]
    rfl

/-- The places of a sequence are those of all its commands, in their order. -/
theorem map_placementsOf (around : List (Nat × Bool)) : ∀ commands : List Command,
    (placementsOf around commands).map (fun p => (p.line, p.keyword)) =
      (allOf commands).map fun c => (c.line, c.keyword)
  | [] => rfl
  | command :: rest => by
    simp only [placementsOf, allOf, List.map_append, map_placements around command,
      map_placementsOf around rest]

end

/-- So are their lines. -/
theorem map_line_allOf (commands : List Command) :
    (allOf commands).map line = (placementsOf [] commands).map Placement.line := by
  have hpairs := congrArg (List.map Prod.fst) (map_placementsOf [] commands)
  rw [List.map_map, List.map_map] at hpairs
  exact hpairs.symm

end Command

/-- How a place inside an open block shows the block. -/
def Opening.place (opening : Opening) : Nat × Bool :=
  (opening.line.number, opening.divided)

/-- The error of the content of a line, if it has one: that of the header, if it opens a block, and
otherwise that of its instruction. -/
def Line.contentErrors (line : Line) : List ParseError :=
  match line.role with
  | .opens kind => Opening.headerErrors ⟨kind, line, false⟩
  | .divides | .closes _ => []
  | .leaf =>
    match Instruction.read line.keyword line.arguments with
    | .ok _ => []
    | .error fault => [⟨line.number, line.text, fault⟩]

/-- Whether a line has a command: it is neither an `else` nor a terminator. -/
def Line.isContent (line : Line) : Bool :=
  line.keyword ≠ "else" ∧ line.keyword ∉ Outline.terminators

namespace Outline

/-- Whether all these blocks have a usable header. -/
def usable (openings : List Opening) : Bool :=
  openings.all fun opening => opening.headerErrors.isEmpty

/-- A block can be used if its own header can and the blocks around it can. -/
theorem usable_cons (opening : Opening) (outer : List Opening) :
    usable (opening :: outer) = (opening.headerErrors.isEmpty && usable outer) := rfl

/-- The place of the command of a line, unless the line or a block around it cannot be used. -/
def placed (openings : List Opening) (line : Line) : List Placement :=
  if line.isContent && line.contentErrors.isEmpty && usable openings then
    [⟨line.number, line.keyword, openings.map Opening.place⟩]
  else []

/-- The places of the commands of some lines, where some blocks are already open. -/
def placements : List Opening → List Line → List Placement
  | _, [] => []
  | openings, line :: rest => placed openings line ++ placements (follow openings line) rest

/-- Only branches are divided. -/
def Proper (openings : List Opening) : Prop :=
  ∀ opening ∈ openings, opening.divided = true → opening.kind = .branch

/-- A line divides no other block than a branch. -/
theorem Proper.follow {openings : List Opening} (hproper : Proper openings) (line : Line) :
    Proper (follow openings line) := by
  intro opening hopening hdivided
  rcases mem_follow hopening with hbefore | ⟨before, _, hbranch, rfl⟩ | ⟨kind, _, rfl⟩
  · exact hproper opening hbefore hdivided
  · exact hbranch
  · cases hdivided

end Outline

/-- The commands in a block do not change how its header is read. -/
theorem OpenBlock.header_add (block : OpenBlock) (command : Command) :
    header (block.add command).kind (block.add command).opener = header block.kind block.opener := by
  unfold OpenBlock.add
  cases block.otherwise <;> rfl

namespace ParseState

variable (strict : Bool) (state : ParseState)

/-- What is closed does not depend on the errors reported before. -/
theorem close_withErrors (errors : List ParseError) (block : OpenBlock) :
    ∃ more, close { state with errors } block = { state.close block with errors := more } := by
  unfold close
  cases block.command with
  | ok command =>
    refine ⟨errors, ?_⟩
    unfold add
    cases state.blocks <;> rfl
  | error fault => exact ⟨_, rfl⟩

/-- Errors do not matter for the commands of a script. -/
theorem commands_finish_withErrors (errors : List ParseError) :
    (finish { state with errors }).commands = state.finish.commands := by
  induction hlength : state.blocks.length generalizing state errors with
  | zero =>
    have hblocks := List.eq_nil_of_length_eq_zero hlength
    simp [finish, abandonAll, hblocks]
  | succ n ih =>
    obtain ⟨outside, block, rfl, houtside⟩ := state.eq_inside_of_length hlength
    have hclosed : (outside.close block).blocks.length = n := by
      rw [length_blocks_close, houtside]
    -- The block is closed after some errors, and these do not matter further out.
    have hinside (errors : List ParseError) :
        (finish (inside { outside with errors } block)).commands = (outside.close block).finish.commands := by
      obtain ⟨more, hmore⟩ := close_withErrors outside (errors ++ [block.opening.unclosed]) block
      rw [finish_inside]
      exact (congrArg (fun state => (finish state).commands) hmore).trans (ih _ more hclosed)
    exact (hinside errors).trans (hinside outside.errors).symm

/-- The places of the commands if the source ended here. A block whose header has a fault takes
everything in it along. -/
def places : List Placement :=
  Command.placementsOf [] state.finish.commands

/-- The places do not depend on the errors. -/
theorem places_withErrors (errors : List ParseError) : places { state with errors } = state.places :=
  congrArg (Command.placementsOf []) (commands_finish_withErrors state errors)

/-- An open block shows the same commands as if it were closed here. -/
theorem places_inside (block : OpenBlock) : (state.inside block).places = (state.close block).places := by
  obtain ⟨more, hmore⟩ := close_withErrors state (state.errors ++ [block.opening.unclosed]) block
  rw [places, finish_inside]
  exact (congrArg places hmore).trans (places_withErrors _ more)

/-- A command is added to the innermost block. -/
theorem add_inside (block : OpenBlock) (command : Command) :
    (state.inside block).add command = state.inside (block.add command) := rfl

/-- A block with a fault in its header adds no places. -/
theorem places_close_of_error {block : OpenBlock} {fault : Fault}
    (hheader : OpenBlock.header block.kind block.opener = .error fault) :
    (state.close block).places = state.places := by
  rw [close, OpenBlock.command_eq, hheader]
  exact places_withErrors state _

/-- Any other block is added as a command. -/
theorem close_of_ok {block : OpenBlock} {make : List Command → List Command → Command}
    (hheader : OpenBlock.header block.kind block.opener = .ok make) :
    state.close block = state.add (make block.body (block.otherwise.getD [])) := by
  rw [close, OpenBlock.command_eq, hheader]
  rfl

/-- A command that is added to a block comes after all others in it. -/
theorem placements_add {block : OpenBlock} {make : List Command → List Command → Command}
    (hheader : OpenBlock.header block.kind block.opener = .ok make)
    (hdivided : block.opening.divided = true → block.kind = .branch) (command : Command)
    (around : List (Nat × Bool)) :
    (make (block.add command).body ((block.add command).otherwise.getD [])).placements around =
      (make block.body (block.otherwise.getD [])).placements around ++
        command.placements (block.opening.place :: around) := by
  obtain ⟨kind, opener, body, otherwise⟩ := block
  have hspec := OpenBlock.header_spec hheader
  cases otherwise with
  | none =>
    obtain ⟨hline, hkeyword, hparts⟩ := hspec body [] fun _ => rfl
    obtain ⟨hline', hkeyword', hparts'⟩ := hspec (body ++ [command]) [] fun _ => rfl
    simp only [OpenBlock.add, OpenBlock.opening, Opening.place, Option.getD_none, Option.isSome_none]
    rw [Command.placements_eq, Command.placements_eq around (make body []), hline, hkeyword, hparts,
      hline', hkeyword', hparts', Command.placementsOf_append, Command.placementsOf_singleton]
    simp [Command.placementsOf]
  | some part =>
    have hbranch : kind = .branch := hdivided rfl
    obtain ⟨hline, hkeyword, hparts⟩ := hspec body part fun h => absurd hbranch h
    obtain ⟨hline', hkeyword', hparts'⟩ := hspec body (part ++ [command]) fun h => absurd hbranch h
    simp only [OpenBlock.add, OpenBlock.opening, Opening.place, Option.getD_some, Option.isSome_some]
    rw [Command.placements_eq, Command.placements_eq around (make body part), hline, hkeyword, hparts,
      hline', hkeyword', hparts', Command.placementsOf_append, Command.placementsOf_singleton]
    simp

/-- A command is added after all others, unless the header of a block around it has a fault. -/
theorem places_add (hproper : Outline.Proper state.openings) (command : Command) :
    (state.add command).places = state.places ++
      if Outline.usable state.openings then
        command.placements (state.openings.map Opening.place)
      else [] := by
  induction hlength : state.blocks.length generalizing state command with
  | zero =>
    obtain ⟨commands, blocks, errors⟩ := state
    obtain rfl := List.eq_nil_of_length_eq_zero hlength
    simp [places, finish, add, abandonAll, openings, Outline.usable, Command.placementsOf_append,
      Command.placementsOf_singleton]
  | succ n ih =>
    obtain ⟨outside, block, rfl, houtside⟩ := state.eq_inside_of_length hlength
    have hopenings : (outside.inside block).openings = block.opening :: outside.openings := rfl
    rw [hopenings] at hproper ⊢
    have houter : Outline.Proper outside.openings := fun opening h => hproper opening (.tail _ h)
    rw [add_inside, places_inside, places_inside]
    cases hheader : OpenBlock.header block.kind block.opener with
    | error fault =>
      have hfaulty : block.opening.headerErrors.isEmpty = false := by
        simp [Opening.headerErrors, OpenBlock.opening, hheader]
      rw [places_close_of_error outside ((block.header_add command).trans hheader),
        places_close_of_error outside hheader, Outline.usable_cons, hfaulty]
      simp
    | ok make =>
      have hsound : block.opening.headerErrors.isEmpty = true := by
        simp [Opening.headerErrors, OpenBlock.opening, hheader]
      rw [close_of_ok outside ((block.header_add command).trans hheader), close_of_ok outside hheader,
        ih outside houter _ houtside, ih outside houter _ houtside,
        placements_add hheader (hproper _ (.head _)), Outline.usable_cons, hsound, Bool.true_and]
      by_cases husable : Outline.usable outside.openings = true
      · simp [husable]
      · simp [husable]

/-- An `else` places nothing. -/
theorem places_divide (line : Line) : (state.divide line).places = state.places := by
  obtain ⟨commands, blocks, errors⟩ := state
  cases blocks with
  | nil => exact places_withErrors _ _
  | cons block outer =>
    unfold divide
    dsimp only
    split
    next hdivide =>
      -- A second part that is still empty shows nothing.
      have hnone : block.otherwise = none := by
        simp only [OpenBlock.mayDivide, Bool.and_eq_true, Option.isNone_iff_eq_none] at hdivide
        exact hdivide.2
      have hcommand : OpenBlock.command { block with otherwise := some [] } = block.command := by
        rw [OpenBlock.command_eq, OpenBlock.command_eq, hnone]
        rfl
      have hclose (outside : ParseState) :
          outside.close { block with otherwise := some [] } = outside.close block := by
        simp only [close, hcommand]
      have hplaces := places_inside ⟨commands, outer, errors⟩ { block with otherwise := some [] }
      rw [hclose, ← places_inside] at hplaces
      exact hplaces
    next => exact places_withErrors ⟨commands, block :: outer, errors⟩ _

/-- Neither does a terminator: the places in the block were there before. -/
theorem places_terminate (line : Line) (terminator : Option BlockKind) :
    (state.terminate strict line terminator).places = state.places := by
  obtain ⟨commands, blocks, errors⟩ := state
  cases blocks with
  | nil => exact places_withErrors _ _
  | cons block outer =>
    have hinside := places_inside ⟨commands, outer, errors⟩ block
    unfold terminate
    dsimp only
    split
    next => exact hinside.symm
    next =>
      obtain ⟨more, hmore⟩ := close_withErrors ⟨commands, outer, errors⟩ _ block
      exact ((congrArg places hmore).trans (places_withErrors _ more)).trans hinside.symm

/-- An empty block is placed by its first line. -/
theorem places_open (hproper : Outline.Proper state.openings) (kind : BlockKind) (line : Line) :
    (state.inside ⟨kind, line, [], none⟩).places = state.places ++
      if (Opening.headerErrors ⟨kind, line, false⟩).isEmpty && Outline.usable state.openings then
        [⟨line.number, kind.opener, state.openings.map Opening.place⟩]
      else [] := by
  rw [places_inside]
  cases hheader : OpenBlock.header kind line with
  | error fault =>
    rw [places_close_of_error state hheader]
    simp [Opening.headerErrors, hheader]
  | ok make =>
    obtain ⟨hline, hkeyword, hparts⟩ := OpenBlock.header_spec hheader [] [] fun _ => rfl
    have hplaced : (make [] []).placements (state.openings.map Opening.place) =
        [⟨line.number, kind.opener, state.openings.map Opening.place⟩] := by
      rw [Command.placements_eq, hline, hkeyword, hparts]
      rfl
    rw [close_of_ok state hheader, Option.getD_none, places_add state hproper, hplaced]
    simp [Opening.headerErrors, hheader]

/-- A line adds its command to the places of a reader as it adds it to those of the outline. -/
theorem places_feed (hproper : Outline.Proper state.openings) (line : Line) :
    (state.feed strict line).places = state.places ++ Outline.placed state.openings line := by
  have hrole := line.role_spec
  unfold feed Outline.placed Line.isContent Line.contentErrors
  split at hrole
  next hcase =>
    simp only [hcase]
    rw [places_divide]
    simp [hrole]
  next terminator hcase =>
    obtain ⟨helse, hclose, _⟩ := hrole
    simp only [hcase]
    rw [places_terminate]
    simp [hclose]
  next kind hcase =>
    obtain ⟨helse, hclose, hopened⟩ := hrole
    have hopener := Line.opened?_eq_some hopened
    simp only [hcase]
    refine (places_open state hproper kind line).trans ?_
    simp [helse, hclose, hopener]
  next hcase =>
    obtain ⟨helse, hclose, _⟩ := hrole
    simp only [hcase]
    cases hread : Instruction.read line.keyword line.arguments with
    | ok instruction =>
      have hkeyword := Instruction.read_keyword hread
      simp only
      rw [places_add state hproper]
      simp [helse, hclose, Command.placements, hkeyword]
    | error fault =>
      refine (places_withErrors state _).trans ?_
      simp

/-- From any state on, the places of the commands are those of the outline. -/
theorem places_foldl (hproper : Outline.Proper state.openings) (lines : List Line) :
    (lines.foldl (feed strict) state).places = state.places ++ Outline.placements state.openings lines := by
  induction lines generalizing state with
  | nil => simp [Outline.placements]
  | cons line rest ih =>
    have hnext : Outline.Proper (state.feed strict line).openings := by
      rw [openings_feed]
      exact hproper.follow line
    rw [List.foldl_cons, ih _ hnext, places_feed strict state hproper, openings_feed, List.append_assoc]
    rfl

end ParseState

/-- The commands of a script stand where the outline places them. -/
theorem Script.placements_ofLines (strict : Bool) (lines : List Line) :
    Command.placementsOf [] (ofLines strict lines).commands = Outline.placements [] lines :=
  ParseState.places_foldl strict ParseState.start (by nofun) lines

end TouchScript
