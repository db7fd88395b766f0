import Mathlib.Data.List.Forall2
import TouchScript.Proofs.Script.Renumber

namespace TouchScript

/-- Where an error was found and what it is, without the text of the line. -/
def ParseError.place (e : ParseError) : Nat × Fault :=
  (e.line, e.fault)

/-- Whether the condition of a block is what stands after its keyword. -/
def BlockKind.TakesCondition (kind : BlockKind) : Prop :=
  kind = .branch ∨ kind = .loop

/-- Two lines that agree in all that is used of them: the number, the keyword and the words after
it, and for a line that opens a branch or a loop all that stands after the keyword. -/
structure Line.Alike (a b : Line) : Prop where
  number : a.number = b.number
  keyword : a.keyword = b.keyword
  arguments : a.arguments = b.arguments
  rest : ∀ kind, a.role = .opens kind → kind.TakesCondition → a.rest = b.rest

namespace Line.Alike

variable {a b c : Line}

/-- Lines that are alike do the same for the nesting of blocks. -/
theorem role (h : a.Alike b) : a.role = b.role :=
  congrArg Role.ofKeyword h.keyword

theorem refl (a : Line) : a.Alike a :=
  ⟨rfl, rfl, rfl, fun _ _ _ => rfl⟩

theorem symm (h : a.Alike b) : b.Alike a :=
  ⟨h.number.symm, h.keyword.symm, h.arguments.symm, fun kind hrole hkind =>
    (h.rest kind (h.role.trans hrole) hkind).symm⟩

theorem trans (h : a.Alike b) (k : b.Alike c) : a.Alike c :=
  ⟨h.number.trans k.number, h.keyword.trans k.keyword, h.arguments.trans k.arguments, fun kind hrole hkind =>
    (h.rest kind hrole hkind).trans (k.rest kind (h.role.symm.trans hrole) hkind)⟩

end Line.Alike

/-- Two open blocks with the same commands in them, whose first lines are read alike. -/
structure OpenBlock.Alike (a b : OpenBlock) : Prop where
  kind : a.kind = b.kind
  number : a.opener.number = b.opener.number
  arguments : a.opener.arguments = b.opener.arguments
  rest : a.kind.TakesCondition → a.opener.rest = b.opener.rest
  body : a.body = b.body
  otherwise : a.otherwise = b.otherwise

namespace OpenBlock.Alike

variable {a b : OpenBlock}

/-- Alike blocks give the same command, or the same fault of their header. -/
theorem command_eq (h : a.Alike b) : a.command = b.command := by
  obtain ⟨kind, opener, body, otherwise⟩ := a
  obtain ⟨kind', opener', body', otherwise'⟩ := b
  obtain ⟨rfl, hnumber, harguments, hrest, rfl, rfl⟩ := h
  dsimp only at hnumber harguments hrest
  cases kind with
  | branch => simp only [command, hnumber, hrest (.inl rfl)]
  | loop => simp only [command, hnumber, hrest (.inr rfl)]
  | counted => simp only [command, hnumber, harguments]
  | function => simp only [command, hnumber, harguments]

/-- The same command may be added to both blocks. -/
theorem add (h : a.Alike b) (command : Command) : (a.add command).Alike (b.add command) := by
  obtain ⟨kind, opener, body, otherwise⟩ := a
  obtain ⟨kind', opener', body', otherwise'⟩ := b
  obtain ⟨hkind, hnumber, harguments, hrest, rfl, rfl⟩ := h
  cases otherwise with
  | none => exact ⟨hkind, hnumber, harguments, hrest, rfl, rfl⟩
  | some part => exact ⟨hkind, hnumber, harguments, hrest, rfl, rfl⟩

/-- Both blocks may be divided, or neither. -/
theorem mayDivide_eq (h : a.Alike b) : a.mayDivide = b.mayDivide := by
  rw [mayDivide, mayDivide, h.kind, h.otherwise]

end OpenBlock.Alike

/-- Two readers with the same commands, whose open blocks are alike and whose errors are at the same
places. -/
structure ParseState.Alike (s t : ParseState) : Prop where
  commands : s.commands = t.commands
  blocks : List.Forall₂ OpenBlock.Alike s.blocks t.blocks
  errors : s.errors.map ParseError.place = t.errors.map ParseError.place

namespace ParseState.Alike

variable {s t : ParseState}

/-- Both readers report a fault of lines with one number; the text of the line does not count. -/
theorem report (h : s.Alike t) {a b : Line} (hnumber : a.number = b.number) (fault : Fault) :
    (s.report a fault).Alike (t.report b fault) := by
  refine ⟨h.commands, h.blocks, ?_⟩
  simp [ParseState.report, ParseError.place, h.errors, hnumber]

/-- Both readers add the same command where they stand. -/
theorem add (h : s.Alike t) (command : Command) : (s.add command).Alike (t.add command) := by
  obtain ⟨commands, blocks, errors⟩ := s
  obtain ⟨commands', blocks', errors'⟩ := t
  obtain ⟨rfl, hblocks, herrors⟩ := h
  cases hblocks with
  | nil => exact ⟨rfl, .nil, herrors⟩
  | cons hblock houter => exact ⟨rfl, .cons (hblock.add command) houter, herrors⟩

/-- Both readers add a block that is closed, or report its header. -/
theorem close (h : s.Alike t) {a b : OpenBlock} (hblock : a.Alike b) : (s.close a).Alike (t.close b) := by
  unfold ParseState.close
  rw [hblock.command_eq]
  cases b.command with
  | ok command => exact h.add command
  | error fault => exact h.report hblock.number fault

/-- Both readers begin the second part of their innermost block, or report the line. -/
theorem divide (h : s.Alike t) {a b : Line} (hline : a.Alike b) : (s.divide a).Alike (t.divide b) := by
  obtain ⟨commands, blocks, errors⟩ := s
  obtain ⟨commands', blocks', errors'⟩ := t
  have hreport := h.report hline.number .unexpectedElse
  obtain ⟨rfl, hblocks, herrors⟩ := h
  cases hblocks with
  | nil => exact hreport
  | cons hblock houter =>
    simp only [ParseState.divide, hblock.mayDivide_eq]
    split
    · exact ⟨rfl, .cons ⟨hblock.kind, hblock.number, hblock.arguments, hblock.rest, hblock.body, rfl⟩ houter,
        herrors⟩
    · exact hreport

/-- Both readers close their innermost block, with the same complaint about the terminator. -/
theorem terminate (h : s.Alike t) (strict : Bool) {a b : Line} (hline : a.Alike b)
    (terminator : Option BlockKind) :
    (s.terminate strict a terminator).Alike (t.terminate strict b terminator) := by
  obtain ⟨commands, blocks, errors⟩ := s
  obtain ⟨commands', blocks', errors'⟩ := t
  obtain ⟨rfl, hblocks, herrors⟩ := h
  cases hblocks with
  | nil =>
    have houtside : Alike ⟨commands, [], errors⟩ ⟨commands, [], errors'⟩ := ⟨rfl, .nil, herrors⟩
    simp only [ParseState.terminate, hline.keyword]
    exact houtside.report hline.number _
  | cons hblock houter =>
    simp only [ParseState.terminate, hblock.kind, hblock.number, hline.keyword]
    apply close _ hblock
    have hinside : Alike ⟨commands, _, errors⟩ ⟨commands, _, errors'⟩ := ⟨rfl, houter, herrors⟩
    split
    · exact hinside
    · exact hinside.report hline.number _

/-- Lines that are read alike leave readers alike. -/
theorem feed (h : s.Alike t) (strict : Bool) {a b : Line} (hline : a.Alike b) :
    (s.feed strict a).Alike (t.feed strict b) := by
  unfold ParseState.feed
  rw [← hline.role]
  split
  next kind hrole =>
    have hblock : OpenBlock.Alike ⟨kind, a, [], none⟩ ⟨kind, b, [], none⟩ :=
      ⟨rfl, hline.number, hline.arguments, hline.rest kind hrole, rfl, rfl⟩
    exact ⟨h.commands, .cons hblock h.blocks, h.errors⟩
  next => exact h.divide hline
  next terminator _ => exact h.terminate strict hline terminator
  next =>
    rw [← hline.keyword, ← hline.arguments, ← hline.number]
    cases Instruction.read a.keyword a.arguments with
    | ok instruction => exact h.add _
    | error fault => exact h.report hline.number fault

/-- Both readers report their innermost block as never closed. -/
theorem abandon (h : s.Alike t) : s.abandon.Alike t.abandon := by
  obtain ⟨commands, blocks, errors⟩ := s
  obtain ⟨commands', blocks', errors'⟩ := t
  obtain ⟨rfl, hblocks, herrors⟩ := h
  cases hblocks with
  | nil => exact ⟨rfl, .nil, herrors⟩
  | cons hblock houter =>
    have hinside : Alike ⟨commands, _, errors⟩ ⟨commands, _, errors'⟩ := ⟨rfl, houter, herrors⟩
    simp only [ParseState.abandon, hblock.kind, hblock.number]
    exact (hinside.report hblock.number _).close hblock

/-- So they do with several blocks, from the inside out. -/
theorem abandonAll (h : s.Alike t) (n : Nat) :
    (ParseState.abandonAll n s).Alike (ParseState.abandonAll n t) := by
  induction n generalizing s t with
  | zero => exact h
  | succ n ih => exact ih h.abandon

/-- After lines that are alike, one by one, the readers still are. -/
theorem foldl (h : s.Alike t) (strict : Bool) {lines others : List Line}
    (hlines : List.Forall₂ Line.Alike lines others) :
    (lines.foldl (ParseState.feed strict) s).Alike (others.foldl (ParseState.feed strict) t) := by
  induction hlines generalizing s t with
  | nil => exact h
  | cons hline _ ih => exact ih (h.feed strict hline)

end ParseState.Alike

/-- Lines that are read alike give the same commands, and errors at the same places. -/
theorem Script.ofLines_alike (strict : Bool) {lines others : List Line}
    (h : List.Forall₂ Line.Alike lines others) :
    (ofLines strict lines).commands = (ofLines strict others).commands ∧
      (ofLines strict lines).errors.map ParseError.place =
        (ofLines strict others).errors.map ParseError.place := by
  have hstart : ParseState.start.Alike ParseState.start := ⟨rfl, .nil, rfl⟩
  have hread := hstart.foldl strict h
  have hlast := hread.abandonAll (lines.foldl (ParseState.feed strict) ParseState.start).blocks.length
  rw [ofLines, ofLines, ParseState.finish, ParseState.finish, ← hread.blocks.length_eq]
  exact ⟨hlast.commands, hlast.errors⟩

end TouchScript
