import TouchScript.Proofs.Script.Header

namespace TouchScript

open Command

/-- `else` is a keyword as any other. -/
theorem isKeyword_else : IsKeyword "else" := by decide

/-- The name of a counter is one word with its `@`. -/
theorem isToken_counter {name : String} (hname : IsCounterName name) : Text.IsToken ("@" ++ name) := by
  refine ⟨by simp, ?_⟩
  simp only [String.toList_append, List.mem_append]
  rintro c (hc | hc)
  · cases List.mem_singleton.mp hc
    rfl
  · exact hname.1 c hc

/-- The count of a loop and its counter are words. -/
theorem isToken_count (count : PassCount) {counter : Option String}
    (hcounter : ∀ name ∈ counter, IsCounterName name) :
    ∀ s ∈ Text.ofInt count.val :: counter.toList.map fun name => "@" ++ name, Text.IsToken s := by
  intro s hs
  simp only [List.mem_cons, List.mem_map, Option.mem_toList] at hs
  rcases hs with rfl | ⟨name, hname, rfl⟩
  · exact Text.isToken_ofInt _
  · exact isToken_counter (hcounter name hname)

namespace Command

/-- What is written after the keyword of a command can stand in a line. -/
theorem isInline_operands {command : Command} (hformed : command.WellFormed) :
    ∀ s ∈ command.operands, Text.IsInline s := by
  cases command with
  | leaf line instruction => exact fun s hs => (Instruction.isPhrase_operands hformed s hs).isInline
  | branch line condition thenBlock elseBlock => simpa [operands] using hformed.1
  | loop line condition body => simpa [operands] using hformed.1
  | counted line count counter body => exact fun s hs => (isToken_count count hformed.1 s hs).isInline
  | function line name body => simpa [operands] using hformed.1.isInline

end Command

namespace OpenBlock

/-- The count and the counter that a counted block is written with. -/
theorem readCount_operands {count : PassCount} {counter : Option String}
    (hcounter : ∀ name ∈ counter, IsCounterName name) :
    readCount ((Text.ofInt count.val :: counter.toList.map fun name => "@" ++ name).flatMap Text.words) =
      .ok (count, counter) := by
  rw [Text.flatMap_words (isToken_count count hcounter)]
  cases counter with
  | none =>
    simp only [Option.toList_none, List.map_nil, readCount, Text.unsigned?_ofInt]
    rfl
  | some name =>
    have hname := hcounter name rfl
    have hdrop : ("@" ++ name).toList.dropWhile (· == '@') = name.toList := by
      have hat : ("@" ++ name).toList = '@' :: name.toList := String.toList_append
      rw [hat]
      cases hchars : name.toList with
      | nil => rfl
      | cons first rest =>
        have hfirst : first ≠ '@' := by simpa [hchars] using hname.2
        simp [hfirst]
    simp only [Option.toList_some, List.map_cons, List.map_nil, readCount, Text.unsigned?_ofInt, hdrop,
      String.ofList_toList]
    rfl

variable (number : Nat) (body : List Command)

/-- A branch is read back from its line and its parts. -/
theorem command_branch {condition : String} (hcondition : Text.IsInline condition)
    (otherwise : Option (List Command)) :
    OpenBlock.command ⟨.branch, ⟨number, Text.join " " ["if", condition]⟩, body, otherwise⟩ =
      .ok (.branch number condition body (otherwise.getD [])) := by
  have hrest := Line.rest_join number BlockKind.branch.isKeyword_opener
    (List.forall_mem_singleton.mpr hcondition)
  rw [Text.join_singleton, BlockKind.opener] at hrest
  simp only [OpenBlock.command, hrest, hcondition.1, if_false]

/-- So is a loop with a condition. -/
theorem command_loop {condition : String} (hcondition : Text.IsInline condition) :
    OpenBlock.command ⟨.loop, ⟨number, Text.join " " ["while", condition]⟩, body, none⟩ =
      .ok (.loop number condition body) := by
  have hrest := Line.rest_join number BlockKind.loop.isKeyword_opener
    (List.forall_mem_singleton.mpr hcondition)
  rw [Text.join_singleton, BlockKind.opener] at hrest
  simp only [OpenBlock.command, hrest, hcondition.1, if_false]

/-- So is a loop with a count, with and without a counter. -/
theorem command_counted {count : PassCount} {counter : Option String}
    (hcounter : ∀ name ∈ counter, IsCounterName name) :
    OpenBlock.command ⟨.counted, ⟨number, Text.join " " ("repeat" :: Text.ofInt count.val ::
        counter.toList.map fun name => "@" ++ name)⟩, body, none⟩ =
      .ok (.counted number count counter body) := by
  have harguments := Line.arguments_join number BlockKind.counted.isKeyword_opener
    fun s hs => (isToken_count count hcounter s hs).isInline
  rw [BlockKind.opener] at harguments
  simp only [OpenBlock.command, harguments, readCount_operands hcounter]
  rfl

/-- So is a function. -/
theorem command_function {name : String} (hname : Text.IsToken name) :
    OpenBlock.command ⟨.function, ⟨number, Text.join " " ["fun", name]⟩, body, none⟩ =
      .ok (.function number name body) := by
  have harguments := Line.arguments_join number BlockKind.function.isKeyword_opener
    (List.forall_mem_singleton.mpr hname.isInline)
  rw [BlockKind.opener, Text.flatMap_words (by simpa using hname)] at harguments
  simp only [OpenBlock.command, harguments]

end OpenBlock

namespace ParseState

variable (strict : Bool) (state : ParseState) (number : Nat)

/-- The line of an instruction adds the instruction. -/
theorem feed_leaf {instruction : Instruction} (hformed : instruction.WellFormed) :
    state.feed strict ⟨number, header (.leaf number instruction)⟩ =
      state.add (.leaf number instruction) := by
  have hkeyword : IsKeyword instruction.keyword := by
    rw [instruction.keyword_eq]
    exact LeafWord.isKeyword_name _
  have hrole : Role.ofKeyword instruction.keyword = .leaf := by
    rw [instruction.keyword_eq]
    exact LeafWord.role_name _
  have hinline : ∀ s ∈ instruction.operands, Text.IsInline s :=
    fun s hs => (Instruction.isPhrase_operands hformed s hs).isInline
  simp only [feed, Line.role, header, Command.keyword, operands]
  rw [Line.keyword_join number hkeyword, hrole, Line.arguments_join number hkeyword hinline,
    Instruction.read_operands hformed]

/-- The first line of a block opens it. -/
theorem feed_opener (kind : BlockKind) (operands : List String) :
    state.feed strict ⟨number, Text.join " " (kind.opener :: operands)⟩ =
      { state with
        blocks :=
          ⟨kind, ⟨number, Text.join " " (kind.opener :: operands)⟩, [], none⟩ :: state.blocks } := by
  simp only [feed, Line.role]
  rw [Line.keyword_join number kind.isKeyword_opener, kind.role_opener]

/-- The line between the parts of a branch begins the second part. -/
theorem feed_else {line : Line} {body : List Command} {outer : List OpenBlock} :
    feed strict { state with blocks := ⟨.branch, line, body, none⟩ :: outer } ⟨number, "else"⟩ =
      { state with blocks := ⟨.branch, line, body, some []⟩ :: outer } := by
  have hkeyword := Line.keyword_join number isKeyword_else []
  rw [Text.join_singleton] at hkeyword
  simp only [feed, Line.role, hkeyword]
  rfl

/-- The last line of a block closes it. -/
theorem feed_closer {kind : BlockKind} {line : Line} {body : List Command}
    {otherwise : Option (List Command)} {command : Command} (outer : List OpenBlock) (own : Bool)
    (hcommand : OpenBlock.command ⟨kind, line, body, otherwise⟩ = .ok command) :
    feed strict { state with blocks := ⟨kind, line, body, otherwise⟩ :: outer } ⟨number, kind.closer own⟩ =
      add { state with blocks := outer } command := by
  have hkeyword := Line.keyword_join number (kind.isKeyword_closer own) []
  rw [Text.join_singleton] at hkeyword
  obtain ⟨terminator, hrole, hclose⟩ := kind.role_closer own strict
  simp only [feed, Line.role, hkeyword, hrole, terminate, hclose, if_true, close, hcommand]

/-- Where a command is added at the end of a part, commands are added there one after the other. -/
theorem foldl_add (part : List Command → ParseState)
    (hadd : ∀ commands command, (part commands).add command = part (commands ++ [command]))
    (before commands : List Command) : commands.foldl add (part before) = part (before ++ commands) := by
  induction commands generalizing before with
  | nil => simp
  | cons command rest ih => rw [List.foldl_cons, hadd, ih, List.append_assoc, List.singleton_append]

/-- Commands are added to the first part of the innermost block. -/
theorem foldl_add_body (kind : BlockKind) (line : Line) (body : List Command) (outer : List OpenBlock)
    (commands : List Command) :
    commands.foldl add { state with blocks := ⟨kind, line, body, none⟩ :: outer } =
      { state with blocks := ⟨kind, line, body ++ commands, none⟩ :: outer } :=
  foldl_add (fun body => { state with blocks := ⟨kind, line, body, none⟩ :: outer }) (fun _ _ => rfl)
    body commands

/-- They are added to its second part once it has begun. -/
theorem foldl_add_otherwise (kind : BlockKind) (line : Line) (body part : List Command)
    (outer : List OpenBlock) (commands : List Command) :
    commands.foldl add { state with blocks := ⟨kind, line, body, some part⟩ :: outer } =
      { state with blocks := ⟨kind, line, body, some (part ++ commands)⟩ :: outer } :=
  foldl_add (fun part => { state with blocks := ⟨kind, line, body, some part⟩ :: outer })
    (fun _ _ => rfl) part commands

/-- They are added to the script outside of all blocks. -/
theorem foldl_add_script (script : List Command) (errors : List ParseError) (commands : List Command) :
    commands.foldl add ⟨script, [], errors⟩ = ⟨script ++ commands, [], errors⟩ :=
  foldl_add (fun script => ⟨script, [], errors⟩) (fun _ _ => rfl) script commands

end ParseState

namespace Command

/-- Numbers do not make a sequence empty. -/
theorem isEmpty_numberAll (first : Nat) (commands : List Command) :
    (numberAll first commands).isEmpty = commands.isEmpty := by
  cases commands <;> simp [numberAll]

mutual

/-- Neither the numbers of the lines nor the choice of the terminators changes how many lines there
are. -/
theorem length_lines_number (own other : Nat → Bool) :
    ∀ (command : Command) (first : Nat),
      ((command.number first).lines own).length = (command.lines other).length
  | .leaf _ _, _ => rfl
  | .branch _ _ thenBlock elseBlock, first => by
    simp only [number, lines, isEmpty_numberAll, List.length_cons, List.length_append,
      length_linesOf_numberAll own other thenBlock]
    split
    · rfl
    · simp only [List.length_cons, length_linesOf_numberAll own other elseBlock]
  | .loop _ _ body, _ | .counted _ _ _ body, _ | .function _ _ body, _ => by
    simp only [number, lines, List.length_cons, List.length_append,
      length_linesOf_numberAll own other body]

/-- How many lines a sequence takes depends neither on its numbers nor on its terminators. -/
theorem length_linesOf_numberAll (own other : Nat → Bool) :
    ∀ (commands : List Command) (first : Nat),
      (linesOf own (numberAll first commands)).length = (linesOf other commands).length
  | [], _ => rfl
  | command :: rest, first => by
    simp only [numberAll, linesOf, List.length_append, length_lines_number own other command,
      length_linesOf_numberAll own other rest]

end

/-- A command takes as many lines as its height. -/
theorem length_lines (own : Nat → Bool) (command : Command) (first : Nat) :
    ((command.number first).lines own).length = height [command] := by
  rw [height, linesOf, linesOf, List.append_nil]
  exact length_lines_number own _ command first

/-- So does a sequence. -/
theorem length_linesOf (own : Nat → Bool) (commands : List Command) (first : Nat) :
    (linesOf own (numberAll first commands)).length = height commands :=
  length_linesOf_numberAll own _ commands first

end Command

namespace ParseState

variable (strict : Bool) (state : ParseState)

/-- A block with one part is read as its command, if its lines are read as its commands. -/
theorem feed_block (kind : BlockKind) (operands : List String) {texts : List String}
    {commands : List Command} {command : Command} (first : Nat) (own : Bool)
    (hbody : ∀ state,
      (Line.numbered (first + 1) texts).foldl (feed strict) state = commands.foldl add state)
    (hcommand : OpenBlock.command
      ⟨kind, ⟨first, Text.join " " (kind.opener :: operands)⟩, commands, none⟩ = .ok command) :
    (Line.numbered first (Text.join " " (kind.opener :: operands) :: (texts ++ [kind.closer own]))).foldl
      (feed strict) state = state.add command := by
  rw [Line.numbered, List.foldl_cons, Line.numbered_append, List.foldl_append, feed_opener, hbody,
    foldl_add_body, List.nil_append, Line.numbered, Line.numbered, List.foldl_cons, List.foldl_nil,
    feed_closer strict state _ state.blocks own hcommand]

/-- A branch with two parts is read as its command, if the lines of both are read as its commands. -/
theorem feed_branch {condition : String} {thenTexts elseTexts : List String}
    {thenBlock elseBlock : List Command} (first : Nat) (own : Bool) (hcondition : Text.IsInline condition)
    (hthen : ∀ state,
      (Line.numbered (first + 1) thenTexts).foldl (feed strict) state = thenBlock.foldl add state)
    (helse : ∀ state, (Line.numbered (first + thenTexts.length + 2) elseTexts).foldl (feed strict) state =
      elseBlock.foldl add state) :
    (Line.numbered first (Text.join " " ["if", condition] ::
        (thenTexts ++ "else" :: elseTexts ++ [BlockKind.branch.closer own]))).foldl (feed strict) state =
      state.add (.branch first condition thenBlock elseBlock) := by
  have hopened := feed_opener strict state first .branch [condition]
  have hnumber : first + 1 + thenTexts.length + 1 = first + thenTexts.length + 2 := by omega
  rw [BlockKind.opener] at hopened
  rw [List.append_assoc, List.cons_append, Line.numbered, List.foldl_cons, hopened, Line.numbered_append,
    List.foldl_append, hthen, foldl_add_body, List.nil_append, Line.numbered, List.foldl_cons, feed_else,
    hnumber, Line.numbered_append, List.foldl_append, helse, foldl_add_otherwise, List.nil_append,
    Line.numbered, Line.numbered, List.foldl_cons, List.foldl_nil,
    feed_closer strict state _ state.blocks own (OpenBlock.command_branch first _ hcondition _)]
  rfl

mutual

/-- The lines of a command add the command to what has been read. -/
theorem feed_lines (strict : Bool) (own : Nat → Bool) :
    ∀ (command : Command) (first : Nat) (state : ParseState), command.WellFormed →
      (Line.numbered first ((command.number first).lines own)).foldl (feed strict) state =
        state.add (command.number first)
  | .leaf _ instruction, first, state, hformed => by
    simp only [number, lines, Line.numbered, List.foldl_cons, List.foldl_nil]
    exact feed_leaf strict state first hformed
  | .branch _ condition thenBlock elseBlock, first, state, ⟨hcondition, hthen, helse⟩ => by
    rw [number, lines, isEmpty_numberAll]
    cases elseBlock with
    | nil =>
      rw [List.isEmpty_nil, if_pos rfl, List.append_nil]
      exact feed_block strict state .branch [condition] first (own first)
        (fun state => feed_linesOf strict own thenBlock (first + 1) state hthen)
        (OpenBlock.command_branch first _ hcondition none)
    | cons command rest =>
      rw [List.isEmpty_cons, if_neg Bool.false_ne_true]
      refine feed_branch strict state first (own first) hcondition
        (fun state => feed_linesOf strict own thenBlock (first + 1) state hthen) fun state => ?_
      rw [length_linesOf]
      exact feed_linesOf strict own (command :: rest) _ state helse
  | .loop _ condition body, first, state, ⟨hcondition, hbody⟩ => by
    rw [number, lines]
    exact feed_block strict state .loop [condition] first (own first)
      (fun state => feed_linesOf strict own body (first + 1) state hbody)
      (OpenBlock.command_loop first _ hcondition)
  | .counted _ count counter body, first, state, ⟨hcounter, hbody⟩ => by
    rw [number, lines]
    exact feed_block strict state .counted _ first (own first)
      (fun state => feed_linesOf strict own body (first + 1) state hbody)
      (OpenBlock.command_counted first _ hcounter)
  | .function _ name body, first, state, ⟨hname, hbody⟩ => by
    rw [number, lines]
    exact feed_block strict state .function [name] first (own first)
      (fun state => feed_linesOf strict own body (first + 1) state hbody)
      (OpenBlock.command_function first _ hname)

/-- The lines of a sequence leave a reader with its commands added, whatever it has read before. -/
theorem feed_linesOf (strict : Bool) (own : Nat → Bool) :
    ∀ (commands : List Command) (first : Nat) (state : ParseState), AllWellFormed commands →
      (Line.numbered first (linesOf own (numberAll first commands))).foldl (feed strict) state =
        (numberAll first commands).foldl add state
  | [], _, _, _ => rfl
  | command :: rest, first, state, hformed => by
    obtain ⟨hcommand, hrest⟩ := hformed
    rw [numberAll, linesOf, Line.numbered_append, List.foldl_append, length_lines,
      feed_lines strict own command first state hcommand, feed_linesOf strict own rest _ _ hrest]
    rfl

end

end ParseState

namespace Command

/-- The line of a command is neither blank nor a comment, and has nothing to trim. -/
theorem isPlain_header {command : Command} (hformed : command.WellFormed) :
    Line.IsPlain command.header := by
  have hkeyword : IsKeyword command.keyword := by
    cases command with
    | leaf line instruction =>
      rw [Command.keyword, instruction.keyword_eq]
      exact LeafWord.isKeyword_name _
    | branch _ _ _ _ => exact BlockKind.branch.isKeyword_opener
    | loop _ _ _ => exact BlockKind.loop.isKeyword_opener
    | counted _ _ _ _ => exact BlockKind.counted.isKeyword_opener
    | function _ _ _ => exact BlockKind.function.isKeyword_opener
  exact Line.isPlain_join hkeyword (isInline_operands hformed)

/-- A keyword alone is such a line. -/
theorem isPlain_of_isKeyword {text : String} (hkeyword : IsKeyword text) : Line.IsPlain text := by
  have hplain := Line.isPlain_join hkeyword (List.forall_mem_nil _)
  rwa [Text.join_singleton] at hplain

mutual

/-- So are all lines of a command. -/
theorem isPlain_lines (own : Nat → Bool) :
    ∀ (command : Command) (first : Nat), command.WellFormed →
      ∀ text ∈ (command.number first).lines own, Line.IsPlain text
  | .leaf line instruction, first, hformed, text, htext => by
    have hheader := isPlain_header hformed
    cases List.mem_singleton.mp htext
    exact hheader
  | .branch line condition thenBlock elseBlock, first, hformed, text, htext => by
    have hheader := isPlain_header hformed
    simp only [number, lines, List.mem_cons, List.mem_append, List.not_mem_nil, or_false] at htext
    rcases htext with rfl | (htext | htext) | rfl
    · exact hheader
    · exact isPlain_linesOf own thenBlock _ hformed.2.1 text htext
    · split at htext
      · cases htext
      · rcases List.mem_cons.mp htext with rfl | htext
        · exact isPlain_of_isKeyword isKeyword_else
        · exact isPlain_linesOf own elseBlock _ hformed.2.2 text htext
    · exact isPlain_of_isKeyword (BlockKind.isKeyword_closer _ _)
  | .loop _ _ body, first, hformed, text, htext | .counted _ _ _ body, first, hformed, text, htext
  | .function _ _ body, first, hformed, text, htext => by
    have hheader := isPlain_header hformed
    simp only [number, lines, List.mem_cons, List.mem_append, List.not_mem_nil, or_false] at htext
    rcases htext with rfl | htext | rfl
    · exact hheader
    · exact isPlain_linesOf own body _ hformed.2 text htext
    · exact isPlain_of_isKeyword (BlockKind.isKeyword_closer _ _)

/-- So are those of a sequence. -/
theorem isPlain_linesOf (own : Nat → Bool) :
    ∀ (commands : List Command) (first : Nat), AllWellFormed commands →
      ∀ text ∈ linesOf own (numberAll first commands), Line.IsPlain text
  | [], _, _, text, htext => by cases htext
  | command :: rest, first, hformed, text, htext => by
    rw [numberAll, linesOf] at htext
    rcases List.mem_append.mp htext with htext | htext
    · exact isPlain_lines own command first hformed.1 text htext
    · exact isPlain_linesOf own rest _ hformed.2 text htext

end

/-- A command stands among texts on the line whose number it carries, where the first text has the
given number. -/
def Placed (first : Nat) (texts : List String) (command : Command) : Prop :=
  ∃ k, command.line = first + k ∧ texts[k]? = some command.header

/-- A command keeps its line among more texts. -/
theorem Placed.append {start : Nat} {texts : List String} {command : Command}
    (h : Placed start texts command) (first : Nat) (before after : List String)
    (hstart : start = first + before.length) :
    Placed first (before ++ (texts ++ after)) command := by
  obtain ⟨k, hline, htext⟩ := h
  refine ⟨before.length + k, by omega, ?_⟩
  rw [List.getElem?_append_right (by omega), Nat.add_sub_cancel_left,
    List.getElem?_append_left (List.getElem?_eq_some_iff.mp htext).1, htext]

mutual

/-- Every command carries the number of its line. -/
theorem placed_lines (own : Nat → Bool) :
    ∀ (command : Command) (first : Nat), ∀ inner ∈ (command.number first).all,
      Placed first ((command.number first).lines own) inner
  | .leaf line instruction, first, inner, hinner => by
    cases List.mem_singleton.mp hinner
    exact ⟨0, rfl, rfl⟩
  | .branch line condition thenBlock elseBlock, first, inner, hinner => by
    rw [number, all] at hinner
    rw [number, lines, List.append_assoc, isEmpty_numberAll]
    rcases List.mem_cons.mp hinner with rfl | hinner
    · exact ⟨0, rfl, rfl⟩
    rcases List.mem_append.mp hinner with hinner | hinner
    · exact (placed_linesOf own thenBlock (first + 1) inner hinner).append first [_] _ rfl
    · have hne : elseBlock.isEmpty = false := by
        cases elseBlock with
        | nil => cases hinner
        | cons _ _ => rfl
      -- A second part with a command in it is not empty, so an `else` stands before it.
      rw [hne, if_neg Bool.false_ne_true]
      have helse := placed_linesOf own elseBlock (first + height thenBlock + 2) inner hinner
      have hplaced := helse.append first
        (header (.branch first condition (numberAll (first + 1) thenBlock)
          (numberAll (first + height thenBlock + 2) elseBlock)) ::
            (linesOf own (numberAll (first + 1) thenBlock) ++ ["else"]))
        [BlockKind.branch.closer (own first)] (by simp [length_linesOf]; omega)
      simpa using hplaced
  | .loop _ _ body, first, inner, hinner | .counted _ _ _ body, first, inner, hinner
  | .function _ _ body, first, inner, hinner => by
    rw [number, all] at hinner
    rw [number, lines]
    rcases List.mem_cons.mp hinner with rfl | hinner
    · exact ⟨0, rfl, rfl⟩
    · exact (placed_linesOf own body (first + 1) inner hinner).append first [_] [_] rfl

/-- Every command of a sequence stands on the line whose number it carries. -/
theorem placed_linesOf (own : Nat → Bool) :
    ∀ (commands : List Command) (first : Nat), ∀ inner ∈ allOf (numberAll first commands),
      Placed first (linesOf own (numberAll first commands)) inner
  | [], _, inner, hinner => by cases hinner
  | command :: rest, first, inner, hinner => by
    rw [numberAll, allOf] at hinner
    rw [numberAll, linesOf]
    rcases List.mem_append.mp hinner with hinner | hinner
    · exact (placed_lines own command first inner hinner).append first [] _ rfl
    · have hplaced := (placed_linesOf own rest (first + height [command]) inner hinner).append first
        ((command.number first).lines own) [] (by rw [length_lines])
      simpa using hplaced

end

end Command

namespace Script

/-- The text of a well-formed tree, whose blocks may end with their own terminators or not, is read
without a fault as this tree, and every command of the tree, however deep, carries the number of the
line that it is written on. -/
theorem parse_render (strict : Bool) (own : Nat → Bool) {commands : List Command}
    (hformed : AllWellFormed commands) :
    parse strict (render own (numberAll 1 commands)) = ⟨numberAll 1 commands, []⟩ ∧
      ∀ command ∈ allOf (numberAll 1 commands), 1 ≤ command.line ∧
        (Chars.lines (render own (numberAll 1 commands)).toList)[command.line - 1]? =
          some command.header.toList := by
  have hplain := isPlain_linesOf own commands 1 hformed
  constructor
  · rw [parse, render, Line.ofSource_join hplain, ofLines,
      ParseState.feed_linesOf strict own commands 1 _ hformed, ParseState.start,
      ParseState.foldl_add_script]
    rfl
  · intro command hcommand
    obtain ⟨k, hline, htext⟩ := placed_linesOf own commands 1 command hcommand
    have hne : linesOf own (numberAll 1 commands) ≠ [] := by
      intro hnil
      rw [hnil] at htext
      cases htext
    rw [render, Text.lines_join hne fun text h => (hplain text h).1.2.2, List.getElem?_map, hline,
      Nat.add_sub_cancel_left, htext]
    exact ⟨Nat.le_add_right 1 k, rfl⟩

/-- A branch with a phrase in its first part and a loop with a counter in its second part. -/
def nestedSample : List Command :=
  [.branch 1 "x > 1" [.leaf 2 (.log "a b")]
    [.counted 4 ⟨2, by decide, by decide⟩ (some "i") [.leaf 5 .stop]]]

/-- A phrase as a condition, a second part, a counter and both ways to close a block are read back. -/
theorem parse_nestedSample :
    parse true "if x > 1\nlog a b\nelse\nrepeat 2 @i\nstop\nendrepeat\nend" = ⟨nestedSample, []⟩ := by
  have hcondition : Text.IsInline "x > 1" := ⟨by decide, by decide, by decide⟩
  have hmessage : Text.IsPhrase "a b" := ⟨["a", "b"], by decide, by decide, by decide⟩
  have hcounter : ∀ name ∈ some "i", IsCounterName name := by
    rintro name ⟨⟩
    have htoken : Text.IsToken "i" := by decide
    exact ⟨htoken.2, by decide⟩
  have hformed : AllWellFormed nestedSample :=
    ⟨⟨hcondition, ⟨hmessage, trivial⟩, ⟨hcounter, trivial, trivial⟩, trivial⟩, trivial⟩
  have hparse := (parse_render true (· == 4) hformed).1
  have htext : render (· == 4) (numberAll 1 nestedSample) =
      "if x > 1\nlog a b\nelse\nrepeat 2 @i\nstop\nendrepeat\nend" := by decide
  rw [htext] at hparse
  exact hparse

end Script

end TouchScript
