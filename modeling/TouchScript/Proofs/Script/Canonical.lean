import TouchScript.Proofs.Script.Formed
import TouchScript.Proofs.Script.Renumber

namespace TouchScript

namespace Command

mutual

/-- Numbers that agree on the lines of a command give it the same numbers. -/
theorem renumber_congr {f g : Nat → Nat} : ∀ command : Command,
    (∀ inner ∈ command.all, f inner.line = g inner.line) → renumber f command = renumber g command
  | .leaf line instruction, h => by
    have hline : f line = g line := h _ (.head _)
    rw [renumber, renumber, hline]
  | .branch line condition thenBlock elseBlock, h => by
    have hline : f line = g line := h _ (.head _)
    rw [renumber, renumber, hline,
      renumberAll_congr thenBlock fun inner hinner => h inner (by simp [all, hinner]),
      renumberAll_congr elseBlock fun inner hinner => h inner (by simp [all, hinner])]
  | .loop line _ body, h | .counted line _ _ body, h | .function line _ body, h => by
    have hline : f line = g line := h _ (.head _)
    rw [renumber, renumber, hline, renumberAll_congr body fun inner hinner => h inner (by simp [all, hinner])]

/-- Two ways to number lines anew that agree on the lines of some commands do the same to them. -/
theorem renumberAll_congr {f g : Nat → Nat} : ∀ commands : List Command,
    (∀ inner ∈ allOf commands, f inner.line = g inner.line) → renumberAll f commands = renumberAll g commands
  | [], _ => rfl
  | command :: rest, h => by
    rw [renumberAll, renumberAll, renumber_congr command fun inner hinner => h inner (by simp [allOf, hinner]),
      renumberAll_congr rest fun inner hinner => h inner (by simp [allOf, hinner])]

end

/-- The lines of a numbered sequence are the lines of its text. -/
theorem line_of_mem_numberAll {first : Nat} {commands : List Command} {inner : Command}
    (hinner : inner ∈ allOf (numberAll first commands)) :
    first ≤ inner.line ∧ inner.line < first + height commands := by
  obtain ⟨k, hline, htext⟩ := placed_linesOf (fun _ => false) commands first inner hinner
  have hlt := (List.getElem?_eq_some_iff.mp htext).1
  rw [length_linesOf] at hlt
  omega

/-- A command that is numbered from some line on has numbers within its own height. -/
theorem line_of_mem_number {first : Nat} {command inner : Command}
    (hinner : inner ∈ (command.number first).all) :
    first ≤ inner.line ∧ inner.line < first + height [command] := by
  refine line_of_mem_numberAll ?_
  rw [numberAll, numberAll, allOf, allOf, List.append_nil]
  exact hinner

mutual

/-- A command can be given its own numbers again. -/
theorem exists_renumber : ∀ (command : Command) (first : Nat), ∃ f, renumber f (command.number first) = command
  | .leaf line instruction, first => ⟨fun _ => line, rfl⟩
  | .branch line condition thenBlock elseBlock, first => by
    obtain ⟨f, hf⟩ := exists_renumberAll thenBlock (first + 1)
    obtain ⟨g, hg⟩ := exists_renumberAll elseBlock (first + height thenBlock + 2)
    refine ⟨fun n => if n = first then line else if n < first + height thenBlock + 1 then f n else g n, ?_⟩
    rw [number, renumber, if_pos rfl]
    congr 1
    · refine (renumberAll_congr _ fun inner hinner => ?_).trans hf
      have hline := line_of_mem_numberAll hinner
      rw [if_neg (by omega), if_pos (by omega)]
    · refine (renumberAll_congr _ fun inner hinner => ?_).trans hg
      have hline := line_of_mem_numberAll hinner
      rw [if_neg (by omega), if_neg (by omega)]
  | .loop line _ body, first | .counted line _ _ body, first | .function line _ body, first => by
    obtain ⟨f, hf⟩ := exists_renumberAll body (first + 1)
    refine ⟨fun n => if n = first then line else f n, ?_⟩
    rw [number, renumber, if_pos rfl]
    congr 1
    refine (renumberAll_congr _ fun inner hinner => ?_).trans hf
    have hline := line_of_mem_numberAll hinner
    rw [if_neg (by omega)]

/-- Commands are numbered from some line on, whatever their numbers were. -/
theorem exists_renumberAll : ∀ (commands : List Command) (first : Nat),
    ∃ f, renumberAll f (numberAll first commands) = commands
  | [], _ => ⟨id, rfl⟩
  | command :: rest, first => by
    obtain ⟨f, hf⟩ := exists_renumber command first
    obtain ⟨g, hg⟩ := exists_renumberAll rest (first + height [command])
    refine ⟨fun n => if n < first + height [command] then f n else g n, ?_⟩
    rw [numberAll, renumberAll]
    congr 1
    · refine (renumber_congr _ fun inner hinner => ?_).trans hf
      have hline := line_of_mem_number hinner
      rw [if_pos (by omega)]
    · refine (renumberAll_congr _ fun inner hinner => ?_).trans hg
      have hline := line_of_mem_numberAll hinner
      rw [if_neg (by omega)]

end

/-- Other numbers do not make a sequence empty. -/
theorem isEmpty_renumberAll (f : Nat → Nat) (commands : List Command) :
    (renumberAll f commands).isEmpty = commands.isEmpty := by
  cases commands <;> rfl

mutual

/-- Numbers matter for the text only where they select the terminators. -/
theorem lines_renumber (own : Nat → Bool) (f : Nat → Nat) :
    ∀ command : Command, (command.renumber f).lines own = command.lines fun line => own (f line)
  | .leaf _ _ => rfl
  | .branch line condition thenBlock elseBlock => by
    simp only [renumber, lines, isEmpty_renumberAll, linesOf_renumberAll own f thenBlock,
      linesOf_renumberAll own f elseBlock]
    rfl
  | .loop _ _ body | .counted _ _ _ body | .function _ _ body => by
    simp only [renumber, lines, linesOf_renumberAll own f body]
    rfl

/-- The text of commands depends on their numbers in one way only: which of them are closed by their
own terminator. -/
theorem linesOf_renumberAll (own : Nat → Bool) (f : Nat → Nat) : ∀ commands : List Command,
    linesOf own (renumberAll f commands) = linesOf (fun line => own (f line)) commands
  | [] => rfl
  | command :: rest => by
    rw [renumberAll, linesOf, linesOf, lines_renumber own f command, linesOf_renumberAll own f rest]

end

mutual

/-- A command is numbered twice as it is by both ways in turn. -/
theorem renumber_renumber (f g : Nat → Nat) : ∀ command : Command,
    (command.renumber f).renumber g = command.renumber fun line => g (f line)
  | .leaf _ _ => rfl
  | .branch _ _ thenBlock elseBlock => by
    simp only [renumber, renumberAll_renumberAll f g thenBlock, renumberAll_renumberAll f g elseBlock]
  | .loop _ _ body | .counted _ _ _ body | .function _ _ body => by
    simp only [renumber, renumberAll_renumberAll f g body]

/-- So are the commands of a sequence. -/
theorem renumberAll_renumberAll (f g : Nat → Nat) : ∀ commands : List Command,
    renumberAll g (renumberAll f commands) = renumberAll (fun line => g (f line)) commands
  | [] => rfl
  | command :: rest => by
    simp only [renumberAll, renumber_renumber f g command, renumberAll_renumberAll f g rest]

end

end Command

open Command

namespace Script

/-- Whatever the source, all commands read from it are well formed. Their text, whose blocks may end
with their own terminators or not, is read again without an error, and as the same commands if the
numbers of the lines are left out of account. -/
theorem parse_canonical (strict : Bool) (source : String) (strictAgain : Bool) (own : Nat → Bool) :
    AllWellFormed (parse strict source).commands ∧
      (parse strictAgain (render own (parse strict source).commands)).isClean = true ∧
      renumberAll (fun _ => 0) (parse strictAgain (render own (parse strict source).commands)).commands =
        renumberAll (fun _ => 0) (parse strict source).commands := by
  have hformed : AllWellFormed (parse strict source).commands := allWellFormed_parse strict source
  generalize (parse strict source).commands = commands at hformed ⊢
  obtain ⟨f, hf⟩ := exists_renumberAll commands 1
  have hlines := linesOf_renumberAll own f (numberAll 1 commands)
  rw [hf] at hlines
  have hparse := (parse_render strictAgain (fun line => own (f line)) hformed).1
  rw [render, ← hlines, ← render] at hparse
  have hsame := renumberAll_renumberAll f (fun _ => 0) (numberAll 1 commands)
  rw [hf] at hsame
  rw [hparse]
  exact ⟨hformed, rfl, hsame.symm⟩

end Script

end TouchScript
