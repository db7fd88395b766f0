import TouchScript.Proofs.Script.Descent
import TouchScript.Proofs.Script.Renumber

namespace TouchScript

/-- Whether a block was still open at the end of the source. -/
def Fault.isUnclosed : Fault → Bool
  | .unterminatedBlock _ _ => true
  | _ => false

/-- The commands and the errors of two scripts one after the other. -/
instance : Append Script :=
  ⟨fun script next => ⟨script.commands ++ next.commands, script.errors ++ next.errors⟩⟩

namespace Line

/-- A text has one line more than it has line feeds. -/
theorem length_lines (chars : List Char) : (Chars.lines chars).length = chars.count '\n' + 1 := by
  induction chars with
  | nil => rfl
  | cons c rest ih =>
    rw [Chars.lines, List.splitOnP_cons_eq_if_modifyHead, List.count_cons]
    split
    · rw [List.length_cons]
      exact congrArg (· + 1) ih
    · rw [List.length_modifyHead]
      exact ih

/-- Which line is read from a text does not depend on its number. -/
theorem ofRaw?_renumber (k number : Nat) (raw : List Char) :
    ofRaw? (number + k) raw = (ofRaw? number raw).map (Line.renumber (· + k)) := by
  unfold ofRaw?
  split <;> rfl

/-- The lines of a source that follows another one on a new line keep their texts, and their numbers
are counted on. -/
theorem ofSource_append (source next : String) :
    ofSource (source ++ "\n" ++ next) =
      ofSource source ++ (ofSource next).map (Line.renumber (· + (source.toList.count '\n' + 1))) := by
  generalize hk : source.toList.count '\n' + 1 = k
  have hchars : (source ++ "\n" ++ next).toList = source.toList ++ '\n' :: next.toList := by simp
  have hlines : Chars.lines (source ++ "\n" ++ next).toList =
      Chars.lines source.toList ++ Chars.lines next.toList := by
    rw [hchars]
    exact List.splitOnP_append_cons _ _ rfl
  have hshift : (Chars.lines next.toList).zipIdx (1 + k) =
      ((Chars.lines next.toList).zipIdx 1).map (Prod.map id (· + k)) := by
    rw [List.map_snd_add_zipIdx_eq_zipIdx, Nat.add_comm]
  rw [ofSource, hlines, List.zipIdx_append, List.filterMap_append, length_lines, hk, hshift,
    List.filterMap_map, ofSource, ofSource, List.map_filterMap]
  congr 2
  funext piece
  exact ofRaw?_renumber k piece.2 piece.1

end Line

namespace Script

/-- Scripts may be put one after the other in portions. -/
theorem append_assoc (script next last : Script) : script ++ next ++ last = script ++ (next ++ last) := by
  change Script.mk (_ ++ _ ++ _) (_ ++ _ ++ _) = _
  rw [List.append_assoc, List.append_assoc]
  rfl

end Script

namespace ParseState

variable (strict : Bool)

/-- A reader outside all blocks. -/
def outside (script : Script) : ParseState :=
  ⟨script.commands, [], script.errors⟩

/-- Outside of all blocks what is read goes to the script itself. -/
theorem outside_absorb (script : Script) (commands : List Command) (errors : List ParseError) :
    (outside script).absorb commands errors = outside (script ++ ⟨commands, errors⟩) := by
  simp only [absorb, outside, foldl_add_script]
  rfl

/-- Where no block is open, a line that divides or closes one only leaves an error. -/
theorem feed_outside {line : Line} (hrole : line.role = .divides ∨ ∃ kind, line.role = .closes kind) :
    ∃ e, ∀ script, (outside script).feed strict line = outside (script ++ ⟨[], [e]⟩) := by
  obtain ⟨fault, hfeed⟩ : ∃ fault, ∀ script,
      (outside script).feed strict line = (outside script).report line fault := by
    rcases hrole with hrole | ⟨kind, hrole⟩
    · refine ⟨.unexpectedElse, fun script => ?_⟩
      simp only [feed, hrole, divide, outside]
    · refine ⟨.unexpectedTerminator line.keyword, fun script => ?_⟩
      simp only [feed, hrole, terminate, outside]
  exact ⟨_, fun script => by rw [hfeed, report_eq_absorb, outside_absorb]⟩

/-- Outside all blocks, what has been read does not matter for what follows. -/
theorem read_outside (before : Script) (lines : List Line) :
    (outside before).read strict lines = before ++ start.read strict lines := by
  induction hlength : lines.length using Nat.strongRecOn generalizing before lines with
  | _ n ih =>
    subst hlength
    -- What both read is the sequence at the beginning, and then, if anything is left, an error.
    have hle := (Descent.sequence strict lines).left_le
    have hstart : start = outside ⟨[], []⟩ := rfl
    have hnil (script : Script) : (⟨[], []⟩ : Script) ++ script = script := rfl
    generalize hpart : (⟨(Descent.sequence strict lines).commands, (Descent.sequence strict lines).errors⟩ :
      Script) = part
    have hleft (line : Line) (rest : List Line)
        (hrole : line.role = .divides ∨ ∃ kind, line.role = .closes kind)
        (hlt : (line :: rest).length ≤ lines.length) :
        (outside (before ++ part)).read strict (line :: rest) =
          before ++ (outside part).read strict (line :: rest) := by
      obtain ⟨e, hfeed⟩ := feed_outside strict hrole
      rw [read_cons, read_cons, hfeed, hfeed, ih _ hlt _ _ rfl, ih _ hlt (part ++ ⟨[], [e]⟩) _ rfl]
      simp only [Script.append_assoc]
    rw [read_sequence, read_sequence strict lines start, hstart, outside_absorb, outside_absorb, hpart, hnil]
    cases hstop : (Descent.sequence strict lines).stop with
    | exhausted => rfl
    | divider line rest hrole =>
      rw [hstop] at hle
      exact hleft line rest (.inl hrole) hle
    | terminator line kind rest hrole =>
      rw [hstop] at hle
      exact hleft line rest (.inr ⟨kind, hrole⟩) hle

/-- Every block is closed if no error says otherwise. -/
theorem blocks_eq_nil {state : ParseState}
    (hclosed : ∀ e ∈ state.finish.errors, e.fault.isUnclosed = false) : state.blocks = [] := by
  obtain ⟨commands, blocks, errors⟩ := state
  cases blocks with
  | nil => rfl
  | cons block outer =>
    have hmem : block.opening.unclosed ∈ (finish ⟨commands, block :: outer, errors⟩).errors := by
      rw [errors_finish]
      simp [openings]
    cases hclosed _ hmem

end ParseState

namespace Script

/-- A source that follows on a new line after one in which every block is closed adds its own commands
and errors, with the lines of the first source counted in. -/
theorem parse_append (strict : Bool) (source next : String)
    (hclosed : ∀ e ∈ (parse strict source).errors, e.fault.isUnclosed = false) :
    parse strict (source ++ "\n" ++ next) =
      parse strict source ++ (parse strict next).renumber (· + (source.toList.count '\n' + 1)) := by
  generalize hstate : (Line.ofSource source).foldl (ParseState.feed strict) ParseState.start = state
  have hfirst : parse strict source = state.finish := by rw [parse, ofLines, hstate]
  have hblocks : state.blocks = [] := ParseState.blocks_eq_nil (by rwa [hfirst] at hclosed)
  have houtside : state = ParseState.outside (parse strict source) := by
    rw [hfirst, ParseState.finish, hblocks]
    obtain ⟨commands, blocks, errors⟩ := state
    exact congrArg (ParseState.mk commands · errors) hblocks
  calc parse strict (source ++ "\n" ++ next)
    _ = state.read strict ((Line.ofSource next).map (Line.renumber (· + (source.toList.count '\n' + 1)))) := by
      rw [parse, ofLines, Line.ofSource_append, List.foldl_append, hstate]
      rfl
    _ = parse strict source ++ (parse strict next).renumber (· + (source.toList.count '\n' + 1)) := by
      rw [houtside, ParseState.read_outside]
      exact congrArg (parse strict source ++ ·) (ofLines_renumber strict _ _)

/-- A stray terminator, a faulty line and a wrong terminator before a block that is never closed. -/
theorem parse_faulty_append :
    (∀ e ∈ (parse true "end\nif x\nlog\nendwhile\r").errors, e.fault.isUnclosed = false) ∧
    parse true ("end\nif x\nlog\nendwhile\r" ++ "\n" ++ "repeat 2\nstop") =
      ⟨[.branch 2 "x" [] [], .counted 5 ⟨2, by decide, by decide⟩ none [.leaf 6 .stop]],
        [⟨1, "end", .unexpectedTerminator "end"⟩, ⟨3, "log", .missingArgument "log"⟩,
          ⟨4, "endwhile", .mismatchedTerminator "endwhile" "if" 2⟩,
          ⟨5, "repeat 2", .unterminatedBlock "repeat" 5⟩]⟩ := by
  have hclosed : ∀ e ∈ (parse true "end\nif x\nlog\nendwhile\r").errors, e.fault.isUnclosed = false := by
    decide
  have hfirst : parse true "end\nif x\nlog\nendwhile\r" = ⟨[.branch 2 "x" [] []],
      [⟨1, "end", .unexpectedTerminator "end"⟩, ⟨3, "log", .missingArgument "log"⟩,
        ⟨4, "endwhile", .mismatchedTerminator "endwhile" "if" 2⟩]⟩ := rfl
  have hnext : parse true "repeat 2\nstop" = ⟨[.counted 1 ⟨2, by decide, by decide⟩ none [.leaf 2 .stop]],
      [⟨1, "repeat 2", .unterminatedBlock "repeat" 1⟩]⟩ := rfl
  have hcount : "end\nif x\nlog\nendwhile\r".toList.count '\n' = 3 := by decide
  refine ⟨hclosed, ?_⟩
  rw [parse_append true _ _ hclosed, hfirst, hnext, hcount]
  rfl

end Script

end TouchScript
