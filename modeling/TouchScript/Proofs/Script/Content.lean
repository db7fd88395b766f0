import TouchScript.Script

namespace TouchScript

namespace Fault

/-- Reading fails at most because of the content of the line. -/
def OfContent {α : Type} (result : Except Fault α) : Prop :=
  ∀ fault, result = .error fault → fault.isStructural = false

theorem ofContent_ok {α : Type} (a : α) : OfContent (.ok a) :=
  nofun

/-- A fault that is not structural is one of content. -/
theorem ofContent_error {α : Type} {fault : Fault} (hfault : fault.isStructural = false) :
    OfContent (.error fault : Except Fault α) := by
  intro other hother
  cases hother
  exact hfault

/-- Reading in two steps fails because of the content if each step does. -/
theorem OfContent.bind {α β : Type} {result : Except Fault α} {next : α → Except Fault β}
    (hresult : OfContent result) (hnext : ∀ a, OfContent (next a)) : OfContent (result >>= next) := by
  cases result with
  | ok a => exact hnext a
  | error fault => exact ofContent_error (hresult fault rfl)

/-- Reading, if it succeeds, gives something with a property. -/
def Gives {α : Type} (property : α → Prop) (result : Except Fault α) : Prop :=
  ∀ a, result = .ok a → property a

section Gives

variable {α β : Type} {property : α → Prop} {next : β → Prop}

/-- What is read has the property that it has. -/
theorem gives_ok {a : α} (h : property a) : Gives property (.ok a) := by
  rintro _ ⟨⟩
  exact h

/-- A fault gives nothing, so there is nothing to show. -/
theorem gives_error (fault : Fault) : Gives property (.error fault) :=
  nofun

theorem gives_true (result : Except Fault α) : Gives (fun _ => True) result :=
  fun _ _ => trivial

/-- A property of what is read first may be used for what is read next. -/
theorem Gives.bind {result : Except Fault α} {f : α → Except Fault β} (hresult : Gives property result)
    (hf : ∀ a, property a → Gives next (f a)) : Gives next (result >>= f) := by
  cases result with
  | ok a => exact hf a (hresult a rfl)
  | error fault => exact gives_error fault

end Gives

end Fault

open Fault

namespace Instruction

/-- A number that cannot be read is a fault of content. -/
theorem ofContent_readInt {lo hi : Int} (field value : String) :
    OfContent (readInt field value : Except Fault (Ranged lo hi)) := by
  unfold readInt
  split
  · exact ofContent_ok _
  · exact ofContent_error rfl

/-- A point that cannot be read is a fault of content. -/
theorem ofContent_readPoint (x y : String) : OfContent (readPoint x y) :=
  (ofContent_readInt _ x).bind fun _ => (ofContent_readInt _ y).bind fun _ => ofContent_ok _

/-- If there are points, those that cannot be read are a fault of content. -/
theorem ofContent_readPoints (args : List String) : ∀ points ∈ readPoints args, OfContent points := by
  fun_induction readPoints args with
  | case1 =>
    rintro points ⟨⟩
    exact ofContent_ok _
  | case2 => nofun
  | case3 x y rest ih =>
    intro points hpoints
    obtain ⟨more, hmore, rfl⟩ := Option.map_eq_some_iff.mp hpoints
    exact (ofContent_readPoint x y).bind fun p => (ih more hmore).bind fun _ => ofContent_ok _

/-- The result of reading is an instruction that is written with the given word, or a fault of
content. -/
def ReadAs (word : LeafWord) : Except Fault Instruction → Prop
  | .ok instruction => instruction.keyword = word.name
  | .error fault => fault.isStructural = false

/-- An instruction that is read after something else is still written with its word. -/
theorem ReadAs.bind {α : Type} {word : LeafWord} {result : Except Fault α}
    {next : α → Except Fault Instruction} (hresult : OfContent result)
    (hnext : ∀ a, ReadAs word (next a)) : ReadAs word (result >>= next) := by
  cases result with
  | ok a => exact hnext a
  | error fault => exact hresult fault rfl

/-- The wrong number of words is a fault of content. -/
theorem readAs_arity (word : LeafWord) (args : List String) :
    ReadAs word (.error (arityFault word args)) := rfl

/-- Both zooms are read in one way, each with its own keyword. -/
theorem readAs_zoom {word : LeafWord} {direction : Direction} {wrong : Except Fault Instruction}
    (hwrong : ReadAs word wrong)
    (hword : ∀ p distance (d : Number), (Gesture.zoom p distance d direction).keyword = word.name)
    (args : List String) : ReadAs word (ofWords.zoom direction wrong args) := by
  unfold ofWords.zoom
  split
  next x y distance d =>
    exact .bind (ofContent_readPoint x y) fun p => .bind (ofContent_readInt _ distance) fun n =>
      .bind (ofContent_readInt _ d) fun ms => hword p n ms
  next => exact hwrong

/-- One case for each word: the number of arguments is checked, then they are read in order. -/
theorem readAs_ofWords (word : LeafWord) (args : List String) : ReadAs word (ofWords word args) := by
  cases word with
  | click | threeFingerTap =>
    simp only [ofWords]
    split
    next x y => exact .bind (ofContent_readPoint x y) fun p => rfl
    next => exact readAs_arity _ args
  | longPress =>
    simp only [ofWords]
    split
    next x y d =>
      exact .bind (ofContent_readPoint x y) fun p => .bind (ofContent_readInt _ d) fun ms => rfl
    next => exact rfl
  | swipe =>
    simp only [ofWords]
    split
    next x y u v d =>
      exact .bind (ofContent_readPoint x y) fun p => .bind (ofContent_readPoint u v) fun q =>
        .bind (ofContent_readInt _ d) fun ms => rfl
    next => exact rfl
  | zoomIn => exact readAs_zoom (readAs_arity .zoomIn args) (fun _ _ _ => rfl) args
  | zoomOut => exact readAs_zoom (readAs_arity .zoomOut args) (fun _ _ _ => rfl) args
  | multiTap =>
    simp only [ofWords]
    split
    next => exact rfl
    next =>
      split
      next points hpoints => exact .bind (ofContent_readPoints _ points hpoints) fun _ => rfl
      next => exact rfl
  | swipePath =>
    simp only [ofWords]
    split
    next d _ _ _ _ _ =>
      split
      next points hpoints =>
        exact .bind (ofContent_readInt _ d) fun ms =>
          .bind (ofContent_readPoints _ points hpoints) fun _ => rfl
      next => exact rfl
    next => exact rfl
  | delay =>
    simp only [ofWords]
    split
    next ms => exact .bind (ofContent_readInt _ ms) fun n => rfl
    next => exact rfl
  | set =>
    simp only [ofWords]
    split
    next => exact rfl
    next => split <;> exact rfl
    next => exact rfl
  | gotoIf | stop | get | label | goto | log | logs | logVar | call =>
    simp only [ofWords]
    split <;> exact rfl
  | find =>
    simp only [ofWords]
    split <;> exact rfl

/-- An instruction is written with the keyword that it was read with. -/
theorem read_keyword {keyword : String} {args : List String} {instruction : Instruction}
    (hread : read keyword args = .ok instruction) : instruction.keyword = keyword := by
  unfold read at hread
  cases hword : LeafWord.ofName? keyword with
  | none =>
    rw [hword] at hread
    cases hread
  | some word =>
    rw [hword] at hread
    have hname : word.name = keyword := by simpa using List.find?_some hword
    replace hread : ofWords word args = .ok instruction := hread
    have hspec := readAs_ofWords word args
    rw [hread] at hspec
    exact hspec.trans hname

/-- An instruction is read, or the line has a fault of content. -/
theorem ofContent_read (keyword : String) (args : List String) : OfContent (read keyword args) := by
  unfold read
  cases LeafWord.ofName? keyword with
  | none => exact ofContent_error rfl
  | some word =>
    intro fault hfault
    replace hfault : ofWords word args = .error fault := hfault
    have hspec := readAs_ofWords word args
    rw [hfault] at hspec
    exact hspec

end Instruction

/-- The two parts of a block; a command that is no branch has at most the first. -/
def Command.parts : Command → List Command × List Command
  | .leaf _ _ => ([], [])
  | .branch _ _ thenBlock elseBlock => (thenBlock, elseBlock)
  | .loop _ _ body | .counted _ _ _ body | .function _ _ body => (body, [])

namespace OpenBlock

/-- What the first line of a block makes of the two parts of the block, or the fault of this line. -/
def header (kind : BlockKind) (opener : Line) :
    Except Fault (List Command → List Command → Command) :=
  match kind with
  | .branch =>
    if opener.rest = "" then .error (.missingArgument "if")
    else .ok (.branch opener.number opener.rest)
  | .loop =>
    if opener.rest = "" then .error (.missingArgument "while")
    else .ok fun body _ => .loop opener.number opener.rest body
  | .counted =>
    match readCount opener.arguments with
    | .ok (count, counter) => .ok fun body _ => .counted opener.number count counter body
    | .error fault => .error fault
  | .function =>
    match opener.arguments with
    | [name] => .ok fun body _ => .function opener.number name body
    | args => .error (.arity "fun" "1 argument (name)" args.length)

/-- The parts of a block do not matter for the fault of its header. -/
theorem command_eq (block : OpenBlock) :
    block.command = (header block.kind block.opener).map fun make =>
      make block.body (block.otherwise.getD []) := by
  obtain ⟨kind, opener, body, otherwise⟩ := block
  cases kind with
  | branch | loop =>
    by_cases hrest : opener.rest = ""
    · simp only [command, header, hrest, if_true]
      rfl
    · simp only [command, header, hrest, if_false]
      rfl
  | counted =>
    cases hcount : readCount opener.arguments with
    | ok header =>
      simp only [command, OpenBlock.header, hcount]
      rfl
    | error fault =>
      simp only [command, header, hcount]
      rfl
  | function =>
    rcases harguments : opener.arguments with _ | ⟨name, _ | ⟨other, more⟩⟩
    all_goals
      simp only [command, header, harguments]
      rfl

/-- The header of a counted block is read, or the line has a fault of content. -/
theorem ofContent_readCount (args : List String) : OfContent (readCount args) := by
  unfold readCount
  split
  next =>
    refine OfContent.bind ?_ fun _ => ofContent_ok _
    dsimp only
    split
    · exact ofContent_ok _
    · exact ofContent_error rfl
  next =>
    refine OfContent.bind ?_ fun _ => ofContent_ok _
    dsimp only
    split
    · exact ofContent_ok _
    · exact ofContent_error rfl
  next => exact ofContent_error rfl

/-- The header of a block of any kind is read, or the line has a fault of content. -/
theorem ofContent_header (kind : BlockKind) (opener : Line) : OfContent (header kind opener) := by
  cases kind with
  | branch | loop =>
    simp only [header]
    split
    · exact ofContent_error rfl
    · exact ofContent_ok _
  | counted =>
    simp only [header]
    cases hcount : readCount opener.arguments with
    | ok header => exact ofContent_ok _
    | error fault => exact ofContent_error (ofContent_readCount _ fault hcount)
  | function =>
    simp only [header]
    split
    · exact ofContent_ok _
    · exact ofContent_error rfl

/-- A block that cannot be used has a fault of content. -/
theorem ofContent_command (block : OpenBlock) : OfContent block.command := by
  intro fault hfault
  rw [command_eq] at hfault
  cases hheader : header block.kind block.opener with
  | ok make =>
    rw [hheader] at hfault
    cases hfault
  | error other =>
    rw [hheader] at hfault
    cases hfault
    exact ofContent_header _ _ _ hheader

/-- A header makes commands that start on its line, are written with its keyword and have the given
parts; only a branch has a second one. -/
theorem header_spec {kind : BlockKind} {opener : Line} {make : List Command → List Command → Command}
    (hheader : header kind opener = .ok make) (body otherwise : List Command)
    (hotherwise : kind ≠ .branch → otherwise = []) :
    (make body otherwise).line = opener.number ∧ (make body otherwise).keyword = kind.opener ∧
      (make body otherwise).parts = (body, otherwise) := by
  cases kind with
  | branch =>
    simp only [header] at hheader
    split at hheader
    next => cases hheader
    next =>
      cases hheader
      exact ⟨rfl, rfl, rfl⟩
  | loop =>
    obtain rfl := hotherwise nofun
    simp only [header] at hheader
    split at hheader
    next => cases hheader
    next =>
      cases hheader
      exact ⟨rfl, rfl, rfl⟩
  | counted =>
    obtain rfl := hotherwise nofun
    simp only [header] at hheader
    split at hheader
    next =>
      cases hheader
      exact ⟨rfl, rfl, rfl⟩
    next => cases hheader
  | function =>
    obtain rfl := hotherwise nofun
    simp only [header] at hheader
    split at hheader
    next =>
      cases hheader
      exact ⟨rfl, rfl, rfl⟩
    next => cases hheader

end OpenBlock

end TouchScript
