import TouchScript.Proofs.Script.Arguments
import TouchScript.Proofs.Script.RoundTrip
import TouchScript.Proofs.Text.Pieces

namespace TouchScript

open Fault

namespace Instruction

variable {args : List String}

/-- A zoom that is read is well formed. -/
theorem gives_zoom {direction : Direction} {wrong : Except Fault Instruction}
    (hwrong : Gives WellFormed wrong) (args : List String) :
    Gives WellFormed (ofWords.zoom direction wrong args) := by
  unfold ofWords.zoom
  split
  · exact (gives_true _).bind fun p _ => (gives_true _).bind fun n _ => (gives_true _).bind fun ms _ =>
      gives_ok trivial
  · exact hwrong

/-- An instruction made of words is well formed. -/
theorem gives_ofWords (word : LeafWord) (hargs : ∀ s ∈ args, Text.IsToken s) :
    Gives WellFormed (ofWords word args) := by
  have hwrong (word : LeafWord) : Gives WellFormed (.error (arityFault word args)) := gives_error _
  cases word with
  | click | threeFingerTap =>
    simp only [ofWords]
    split
    · exact (gives_true _).bind fun p _ => gives_ok trivial
    · exact hwrong _
  | longPress =>
    simp only [ofWords]
    split
    · exact (gives_true _).bind fun p _ => (gives_true _).bind fun ms _ => gives_ok trivial
    · exact hwrong _
  | swipe =>
    simp only [ofWords]
    split
    · exact (gives_true _).bind fun p _ => (gives_true _).bind fun q _ => (gives_true _).bind fun ms _ =>
        gives_ok trivial
    · exact hwrong _
  | zoomIn | zoomOut => exact gives_zoom (hwrong _) args
  | multiTap =>
    simp only [ofWords]
    split
    · exact hwrong _
    · split
      next points hpoints =>
        refine (gives_paired _ points hpoints).bind fun points hmade => gives_ok ?_
        have hlength := hmade.1.length_eq
        rw [List.length_cons] at hlength
        change 1 ≤ points.length
        omega
      next => exact hwrong _
  | swipePath =>
    simp only [ofWords]
    split
    · split
      next points hpoints =>
        refine (gives_true _).bind fun ms _ => (gives_paired _ points hpoints).bind fun points hmade =>
          gives_ok ?_
        have hlength := hmade.1.length_eq
        simp only [List.length_cons] at hlength
        change 2 ≤ points.length
        omega
      next => exact hwrong _
    · exact hwrong _
  | delay =>
    simp only [ofWords]
    split
    · exact (gives_true _).bind fun n _ => gives_ok trivial
    · exact hwrong _
  | stop =>
    simp only [ofWords]
    split
    · exact gives_ok trivial
    · exact hwrong _
  | set =>
    simp only [ofWords]
    split
    · exact gives_ok ⟨hargs _ (by simp), hargs _ (by simp)⟩
    · split
      · exact gives_ok ⟨hargs _ (by simp), hargs _ (by simp), hargs _ (by simp)⟩
      · exact gives_error _
    · exact hwrong _
  | get | label | goto | logVar | call =>
    simp only [ofWords]
    split
    · exact gives_ok (hargs _ (.head _))
    · exact hwrong _
  | gotoIf =>
    simp only [ofWords]
    split
    next name first others hlast hinit =>
      have hmem (s : String) (hs : s ∈ first :: others) : s ∈ args := by
        rw [← hinit] at hs
        exact (List.dropLast_sublist args).subset hs
      exact gives_ok ⟨Text.isPhrase_join fun s hs => hargs s (hmem s hs),
        hargs name (List.mem_of_getLast? hlast)⟩
    next => exact hwrong _
  | log | logs =>
    simp only [ofWords]
    split
    · exact gives_error _
    · exact gives_ok (Text.isPhrase_join hargs)
  | find =>
    simp only [ofWords]
    split
    · exact gives_ok ⟨hargs _ (by simp), hargs _ (by simp), hargs _ (by simp), by simp⟩
    · refine gives_ok ⟨hargs _ (by simp), hargs _ (by simp), hargs _ (by simp), ?_⟩
      rintro name ⟨⟩
      exact hargs _ (by simp)
    · exact hwrong _

end Instruction

namespace Line

/-- The arguments of a line are words. -/
theorem isToken_arguments (line : Line) : ∀ s ∈ line.arguments, Text.IsToken s :=
  fun _ => Text.isToken_of_mem_words

/-- An instruction that is read from a line is well formed: its names are words, and its text can
stand in a line. -/
theorem gives_read (line : Line) :
    Gives Instruction.WellFormed (Instruction.read line.keyword line.arguments) := by
  unfold Instruction.read
  split
  · exact Instruction.gives_ofWords _ line.isToken_arguments
  · exact gives_error _

/-- Lines of a source are in one piece. -/
theorem not_mem_text {source : String} {line : Line} (hline : line ∈ ofSource source) :
    '\n' ∉ line.text.toList := by
  obtain ⟨⟨raw, number⟩, hraw, hread⟩ := List.mem_filterMap.mp hline
  have hpiece := Chars.not_mem_of_mem_lines (List.fst_mem_of_mem_zipIdx hraw)
  dsimp only at hread hpiece
  unfold ofRaw? at hread
  split at hread
  · cases hread
  · cases hread
  · cases hread
    rw [String.toList_ofList]
    exact fun hmem => hpiece (Chars.mem_of_mem_trim hmem)

/-- What follows the first word of a line can stand in a line, unless it is empty. -/
theorem isInline_rest {line : Line} (hline : '\n' ∉ line.text.toList) (hne : line.rest ≠ "") :
    Text.IsInline line.rest :=
  Text.isInline_trim (fun hmem => hline ((List.dropWhile_suffix _).subset hmem)) hne

end Line

namespace Command

/-- Two sequences are well formed exactly if both are. -/
theorem allWellFormed_append {commands more : List Command} :
    AllWellFormed (commands ++ more) ↔ AllWellFormed commands ∧ AllWellFormed more := by
  induction commands with
  | nil => simp [AllWellFormed]
  | cons command rest ih => simp [AllWellFormed, ih, and_assoc]

/-- A well-formed command may come behind well-formed ones. -/
theorem allWellFormed_concat {commands : List Command} {command : Command}
    (hcommands : AllWellFormed commands) (hcommand : command.WellFormed) :
    AllWellFormed (commands ++ [command]) :=
  allWellFormed_append.mpr ⟨hcommands, hcommand, trivial⟩

end Command

open Command

/-- The first line of a block is in one piece, and what has been read of the block is well formed. -/
structure OpenBlock.Formed (block : OpenBlock) : Prop where
  opener : '\n' ∉ block.opener.text.toList
  body : AllWellFormed block.body
  otherwise : AllWellFormed (block.otherwise.getD [])

namespace OpenBlock

/-- A well-formed command may be added to an open block. -/
theorem Formed.add {block : OpenBlock} (h : block.Formed) {command : Command} (hcommand : command.WellFormed) :
    (block.add command).Formed := by
  obtain ⟨kind, opener, body, otherwise⟩ := block
  obtain ⟨hopener, hbody, hotherwise⟩ := h
  cases otherwise with
  | none => exact ⟨hopener, allWellFormed_concat hbody hcommand, trivial⟩
  | some part => exact ⟨hopener, hbody, allWellFormed_concat hotherwise hcommand⟩

/-- The counter of a loop, if it is read, has a name that can be written. -/
theorem gives_readCount {args : List String} (hargs : ∀ s ∈ args, Text.IsToken s) :
    Gives (fun header => ∀ name ∈ header.2, IsCounterName name) (readCount args) := by
  unfold readCount
  split
  · exact (gives_true _).bind fun count _ => gives_ok nofun
  next n counter =>
    refine (gives_true _).bind fun count _ => gives_ok ?_
    rintro name ⟨⟩
    constructor
    · intro c hc
      rw [String.toList_ofList] at hc
      exact (hargs counter (by simp)).2 c ((List.dropWhile_suffix _).subset hc)
    · rw [String.toList_ofList]
      intro hat
      have hhead := List.head?_dropWhile_not (· == '@') counter.toList
      rw [hat] at hhead
      cases hhead
  · exact gives_error _

/-- The command of a block is well formed, if its parts are. -/
theorem Formed.gives_command {block : OpenBlock} (h : block.Formed) :
    Gives Command.WellFormed block.command := by
  obtain ⟨kind, opener, body, otherwise⟩ := block
  obtain ⟨hopener, hbody, hotherwise⟩ := h
  cases kind with
  | branch =>
    simp only [command]
    split
    · exact gives_error _
    next hrest => exact gives_ok ⟨Line.isInline_rest hopener hrest, hbody, hotherwise⟩
  | loop =>
    simp only [command]
    split
    · exact gives_error _
    next hrest => exact gives_ok ⟨Line.isInline_rest hopener hrest, hbody⟩
  | counted =>
    simp only [command]
    exact (gives_readCount opener.isToken_arguments).bind fun header hcounter => gives_ok ⟨hcounter, hbody⟩
  | function =>
    simp only [command]
    split
    next name hname =>
      have htoken := opener.isToken_arguments name (by simp [hname])
      exact gives_ok ⟨htoken, hbody⟩
    · exact gives_error _

end OpenBlock

/-- All that has been read of a script is well formed. -/
structure ParseState.Formed (state : ParseState) : Prop where
  commands : AllWellFormed state.commands
  blocks : ∀ block ∈ state.blocks, block.Formed

namespace ParseState.Formed

variable {state : ParseState}

/-- A fault changes no command. -/
theorem report (h : state.Formed) (line : Line) (fault : Fault) : (state.report line fault).Formed :=
  ⟨h.commands, h.blocks⟩

/-- A well-formed command may be added where a reader stands. -/
theorem add (h : state.Formed) {command : Command} (hcommand : command.WellFormed) :
    (state.add command).Formed := by
  obtain ⟨commands, blocks, errors⟩ := state
  cases blocks with
  | nil => exact ⟨allWellFormed_concat h.commands hcommand, nofun⟩
  | cons block outer =>
    obtain ⟨hblock, houter⟩ := List.forall_mem_cons.mp h.blocks
    exact ⟨h.commands, List.forall_mem_cons.mpr ⟨hblock.add hcommand, houter⟩⟩

/-- A block that is closed becomes a well-formed command, or is dropped. -/
theorem close (h : state.Formed) {block : OpenBlock} (hblock : block.Formed) : (state.close block).Formed := by
  unfold ParseState.close
  cases hcommand : block.command with
  | ok command => exact h.add (hblock.gives_command command hcommand)
  | error fault => exact h.report block.opener fault

/-- Reading a line keeps what has been read well formed. -/
theorem feed (h : state.Formed) (strict : Bool) {line : Line} (hline : '\n' ∉ line.text.toList) :
    (state.feed strict line).Formed := by
  unfold ParseState.feed
  split
  next kind => exact ⟨h.commands, List.forall_mem_cons.mpr ⟨⟨hline, trivial, trivial⟩, h.blocks⟩⟩
  next =>
    unfold divide
    split
    next block outer hblocks =>
      obtain ⟨hblock, houter⟩ := List.forall_mem_cons.mp (hblocks ▸ h.blocks)
      split
      · exact ⟨h.commands, List.forall_mem_cons.mpr ⟨⟨hblock.opener, hblock.body, trivial⟩, houter⟩⟩
      · exact h.report line _
    next => exact h.report line _
  next terminator =>
    unfold terminate
    split
    next => exact h.report line _
    next block outer hblocks =>
      obtain ⟨hblock, houter⟩ := List.forall_mem_cons.mp (hblocks ▸ h.blocks)
      have houtside : Formed { state with blocks := outer } := ⟨h.commands, houter⟩
      dsimp only
      refine close ?_ hblock
      split
      · exact houtside
      · exact houtside.report line _
  next =>
    have hread := line.gives_read
    cases hresult : Instruction.read line.keyword line.arguments with
    | ok instruction => exact h.add (hread instruction hresult)
    | error fault => exact h.report line fault

/-- Blocks that are never closed become well-formed commands, or are dropped. -/
theorem abandonAll (h : state.Formed) (n : Nat) : (abandonAll n state).Formed := by
  induction n generalizing state with
  | zero => exact h
  | succ n ih =>
    refine ih ?_
    unfold abandon
    split
    next => exact h
    next block outer hblocks =>
      obtain ⟨hblock, houter⟩ := List.forall_mem_cons.mp (hblocks ▸ h.blocks)
      have houtside : Formed { state with blocks := outer } := ⟨h.commands, houter⟩
      exact (houtside.report _ _).close hblock

end ParseState.Formed

namespace Script

/-- All commands that are read from a source are well formed. -/
theorem allWellFormed_parse (strict : Bool) (source : String) :
    AllWellFormed (parse strict source).commands := by
  have hread (lines : List Line) (hlines : ∀ line ∈ lines, '\n' ∉ line.text.toList) (state : ParseState)
      (hstate : state.Formed) : (lines.foldl (ParseState.feed strict) state).Formed := by
    induction lines generalizing state with
    | nil => exact hstate
    | cons line rest ih =>
      obtain ⟨hline, hrest⟩ := List.forall_mem_cons.mp hlines
      exact ih hrest _ (hstate.feed strict hline)
  have hlast := hread (Line.ofSource source) (fun _ => Line.not_mem_text) .start ⟨trivial, nofun⟩
  exact (hlast.abandonAll _).commands

end Script

end TouchScript
