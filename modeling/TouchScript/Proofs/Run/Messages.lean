import TouchScript.Proofs.Run.Attribution
import TouchScript.Proofs.Run.Refusal
import TouchScript.Proofs.Script.Layout

namespace TouchScript

namespace Text

/-- Cutting a text at its spaces loses nothing. -/
theorem join_unspaced (s : String) : join " " (unspaced s) = s := by
  have hpieces : s.toList.splitOnP (· == ' ') = s.toList.splitOn ' ' := rfl
  rw [join, unspaced, hpieces, List.map_map, String.toList_comp_ofList, List.map_id]
  exact (congrArg String.ofList (List.intercalate_splitOn ' ')).trans String.ofList_toList

/-- Words joined by single spaces are cut into the same words. -/
theorem unspaced_join {tokens : List String} (hne : tokens ≠ []) (htokens : ∀ token ∈ tokens, ' ' ∉ token.toList) :
    unspaced (join " " tokens) = tokens := by
  have hcut : List.splitOn ' ' (List.intercalate [' '] (tokens.map String.toList)) = tokens.map String.toList := by
    apply List.splitOn_intercalate
    · intro chars hchars
      obtain ⟨token, htoken, rfl⟩ := List.mem_map.mp hchars
      exact htokens token htoken
    · simpa using hne
  rw [join, unspaced, String.toList_ofList]
  change (List.splitOn ' ' (List.intercalate [' '] (tokens.map String.toList))).map String.ofList = tokens
  rw [hcut, List.map_map, String.ofList_comp_toList, List.map_id]

/-- There is no space in a word. -/
theorem IsToken.not_mem_space {token : String} (h : IsToken token) : ' ' ∉ token.toList := by
  intro hmem
  cases h.2 ' ' hmem

end Text

namespace Context

/-- Refers to a variable or a counter: a sigil and a name that is not empty. -/
def Refers (word : String) : Prop :=
  ∃ sigil ∈ ['$', '@'], ∃ first name, word.toList = sigil :: first :: name

/-- What is shown in the place of a word: the value of the variable or the counter that it refers to, zero
when there is none, and otherwise the word itself. -/
def shown (ctx : Context) (word : String) : String :=
  match word.toList with
  | '$' :: first :: name => ((ctx.values.get? (String.ofList (first :: name))).map Value.toText).getD "0"
  | '@' :: first :: name => ((ctx.counters.get? (String.ofList (first :: name))).map fun n => Text.ofInt n.val).getD "0"
  | _ => word

variable (ctx : Context)

/-- The words that are looked up are those that refer to something. -/
theorem isReference_iff (word : String) : isReference word = true ↔ Refers word := by
  unfold isReference Refers
  split
  next sigil first name hword => simp [hword]
  next hshort =>
    constructor
    · nofun
    · rintro ⟨sigil, _, first, name, hword⟩
      exact absurd hword (hshort sigil first name)

/-- A word that refers to nothing is shown as it is. -/
theorem shown_of_not_refers {word : String} (h : ¬ Refers word) : ctx.shown word = word := by
  unfold shown
  split
  next first name hword => exact absurd ⟨'$', by decide, first, name, hword⟩ h
  next first name hword => exact absurd ⟨'@', by decide, first, name, hword⟩ h
  next => rfl

/-- A word without blanks is replaced by what is shown in its place. -/
theorem ite_isReference {token : String} (htoken : Text.IsToken token) :
    (if isReference token then (ctx.resolve token).toText else token) = ctx.shown token := by
  by_cases href : Refers token
  · rw [if_pos ((isReference_iff token).mpr href), resolve, htoken.isInline.trimmed.trim_eq, shown]
    obtain ⟨sigil, hsigil, first, name, hchars⟩ := href
    rw [hchars]
    rcases List.mem_pair.mp hsigil with rfl | rfl
    · exact (Option.getD_map Value.toText (.number Number.zero) _).symm
    · exact (Option.getD_map (fun n => Text.ofInt n.val) Number.zero _).symm
  · rw [if_neg (mt (isReference_iff token).mp href), ctx.shown_of_not_refers href]

/-- Of words with single spaces between them each is shown on its own. -/
theorem interpolate_join {tokens : List String} (hne : tokens ≠ []) (htokens : ∀ token ∈ tokens, Text.IsToken token) :
    ctx.interpolate (Text.join " " tokens) = Text.join " " (tokens.map ctx.shown) := by
  rw [interpolate, Text.unspaced_join hne fun token htoken => (htokens token htoken).not_mem_space]
  apply congrArg (Text.join " ")
  exact List.map_congr_left fun token htoken => ctx.ite_isReference (htokens token htoken)

/-- A text without references is shown as it is, with all its blanks. -/
theorem interpolate_eq_self {text : String} (h : ∀ piece ∈ Text.unspaced text, ¬ Refers piece) :
    ctx.interpolate text = text := by
  have hkept : ∀ piece ∈ Text.unspaced text,
      (if isReference piece then (ctx.resolve piece).toText else piece) = piece := by
    intro piece hpiece
    rw [if_neg (mt (isReference_iff piece).mp (h piece hpiece))]
  rw [interpolate, List.map_congr_left hkept, List.map_id']
  exact Text.join_unspaced text

end Context

/-- The instructions that hand a message to the device: the keyword that is read as one, what is made of the
message, and the call that its text ends up in. -/
inductive Instruction.Tells (settings : Settings) : LeafWord → (String → Instruction) → (String → LogCall Millis) → Prop where
  | log : Tells settings .log .log .message
  | overlay : Tells settings .logs .overlay fun text => .overlay text settings.overlayDuration

/-- In lower case a comment is a comment. -/
theorem Text.head?_lower {word : String} (h : word.toList.head? = some '#') :
    (lower word).toList.head? = some '#' := by
  obtain ⟨rest, hword⟩ := List.head?_eq_some_iff.mp h
  rw [lower, String.toList_ofList, hword]
  rfl

namespace Instruction.Tells

variable {settings : Settings} {keyword : LeafWord} {make : String → Instruction} {call : String → LogCall Millis}

/-- The words after the keyword are the message, with single spaces between them. -/
theorem feed_eq (h : Tells settings keyword make call) {line : Line} (hkeyword : line.keyword = keyword.name)
    (hne : line.arguments ≠ []) (strict : Bool) (state : ParseState) :
    state.feed strict line = state.add (.leaf line.number (make (Text.join " " line.arguments))) := by
  obtain ⟨first, others, harguments⟩ := List.exists_cons_of_ne_nil hne
  have hrole : line.role = .leaf := by
    rw [Line.role, hkeyword]
    cases h <;> rfl
  have hread : read line.keyword line.arguments = .ok (make (Text.join " " line.arguments)) := by
    rw [read, hkeyword, LeafWord.ofName?_name, harguments]
    cases h <;> rfl
  simp only [ParseState.feed, hrole, hread]

/-- An instruction that tells something hands its text over as it reads in the current context, and
counts as a command. -/
theorem dispatch_eq (h : Tells settings keyword make call) (m : Machine) (line index : Nat) (message : String) :
    m.dispatch settings index (.leaf line (make message)) =
      (m.counting (.leaf line (make message))).goOn (.tell (call (m.context.interpolate message))) := by
  cases h <;> rfl

end Instruction.Tells

namespace Run

variable {σ : Type} {settings : Settings} {keyword : LeafWord} {make : String → Instruction}
  {call : String → LogCall Millis} {run : Run (σ × List DeviceCall)} {scope index line : Nat}
  {sequence : List Command} {outer : List Frame} {message : String}

/-- A message is told in the turn after the one in which its instruction is dispatched. -/
theorem Faces.calls_tell (hmake : Instruction.Tells settings keyword make call) (d : Device σ)
    (h : run.Faces scope index line sequence outer (make message)) :
    (run.steps settings d.listed 2).calls =
      run.calls ++ [.tell (call (run.machine.context.interpolate message))] := by
  have hpending (machine : Machine) :
      pending (unlisted { run with machine }) = machine.control.call?.toList := pending_of_running h.running
  rw [steps, steps, steps, (step_listed settings d _).2, h.step, hpending, hmake.dispatch_eq]
  rfl

/-- The words of a message are replaced once. A line with the keyword of a log line in any case and words
after it is read as an instruction, and the text that the device gets when a run has come to it is made of
these words, with single spaces between them, each replaced by what is shown in its place: the value of the
variable or counter it refers to, whatever this value looks like, and otherwise the word itself. Any text
without references between its spaces is kept as it is, with all its spaces. -/
theorem message_substituted {σ : Type} (settings : Settings) (d : Device σ) :
    (∀ {keyword make call}, Instruction.Tells settings keyword make call → ∀ {raw word : String} {words},
      Text.words raw = word :: words → Text.lower word = keyword.name → words ≠ [] →
      (∀ n, ∃ line, Line.ofRaw? n raw.toList = some line ∧ ∀ strict (state : ParseState),
        state.feed strict line = state.add (.leaf n (make (Text.join " " words)))) ∧
      ∀ {run : Run (σ × List DeviceCall)} {scope index line sequence outer},
        run.Faces scope index line sequence outer (make (Text.join " " words)) →
        (run.steps settings d.listed 2).calls =
          run.calls ++ [.tell (call (Text.join " " (words.map run.machine.context.shown)))]) ∧
    ∀ (ctx : Context) (text : String), (∀ piece ∈ Text.unspaced text, ¬ Context.Refers piece) →
      ctx.interpolate text = text := by
  refine ⟨fun {keyword make call} hmake {raw word words} hwords hkeyword hne => ⟨fun n => ?_, ?_⟩, fun ctx text => ?_⟩
  · have hmark : word.toList.head? ≠ some '#' := by
      intro hcomment
      have hlower := Text.head?_lower hcomment
      rw [hkeyword] at hlower
      cases hmake <;> exact absurd hlower (by decide)
    obtain ⟨line, hline, rfl, hlower, rfl⟩ := Line.exists_ofRaw?_of_words hwords hmark n
    exact ⟨line, hline, hmake.feed_eq (hlower.trans hkeyword) hne⟩
  · intro run scope index line sequence outer hfaces
    have htokens : ∀ token ∈ words, Text.IsToken token := fun token htoken =>
      Text.isToken_of_mem_words (hwords.symm ▸ List.mem_cons_of_mem _ htoken)
    rw [hfaces.calls_tell hmake d, run.machine.context.interpolate_join hne htokens]
  · exact ctx.interpolate_eq_self

/-- A variable whose value has spaces and looks like a reference, a lone sigil and a counter. -/
theorem message_substituted_spaces :
    let begun := start Settings.default [.leaf 1 (.log "$x $ @i")] ((), []) false
    let context := (Context.empty.setVariable "x" (.text "$y  z")).setCounter "i" ⟨2, by decide, by decide⟩
    let run : Run (Unit × List DeviceCall) := { begun with machine := { begun.machine with context } }
    Text.words " LOG $x\t$ @i" = ["LOG", "$x", "$", "@i"] ∧ Text.lower "LOG" = "log" ∧
      (∃ line, Line.ofRaw? 1 " LOG $x\t$ @i".toList = some line ∧
        ParseState.start.feed true line = ParseState.start.add (.leaf 1 (.log "$x $ @i"))) ∧
      run.Faces 0 0 1 [.leaf 1 (.log "$x $ @i")] [] (.log "$x $ @i") ∧
      (run.steps Settings.default blindDevice.listed 2).calls = [.tell (.message "$y  z $ 2")] ∧
      (∀ piece ∈ Text.unspaced "a  b=$x", ¬ Context.Refers piece) ∧
      Context.empty.interpolate "a  b=$x" = "a  b=$x" := by
  intro begun context run
  have hwords : Text.words " LOG $x\t$ @i" = ["LOG", "$x", "$", "@i"] := rfl
  have hlower : Text.lower "LOG" = "log" := rfl
  have hfaces : run.Faces 0 0 1 [.leaf 1 (.log "$x $ @i")] [] (.log "$x $ @i") := ⟨rfl, rfl, rfl, rfl, rfl⟩
  have hplain : ∀ piece ∈ Text.unspaced "a  b=$x", ¬ Context.Refers piece := by
    have hpieces : Text.unspaced "a  b=$x" = ["a", "", "b=$x"] := rfl
    simp [hpieces, Context.Refers]
  have hshown : Text.join " " (["$x", "$", "@i"].map context.shown) = "$y  z $ 2" := by decide +kernel
  obtain ⟨hlog, hkept⟩ := message_substituted Settings.default blindDevice
  obtain ⟨hline, htold⟩ := hlog .log hwords hlower (List.cons_ne_nil _ _)
  obtain ⟨line, hread, hfeed⟩ := hline 1
  refine ⟨hwords, hlower, ⟨line, hread, hfeed true _⟩, hfaces, ?_, hplain, hkept _ _ hplain⟩
  rw [htold hfaces, ← hshown]
  rfl

end Run

end TouchScript
