import TouchScript.Proofs.Labels.Containment
import TouchScript.Proofs.Machine.Nesting
import TouchScript.Run.Rehearsal

namespace TouchScript

/-- The innermost of some sequences that holds a label, the sequences around it, and the place of
the first label of that name. The sequences are given innermost first. -/
def lexicalTarget (label : String) :
    List (List Command) → Option (List Command × List (List Command) × Nat)
  | [] => none
  | commands :: around =>
    match firstLabel? label commands with
    | some index => some (commands, around, index)
    | none => lexicalTarget label around

/-- Jumps to a label when it is carried out in a context. -/
def Instruction.JumpsTo (context : Context) (label : String) : Instruction → Prop
  | .goto name => name = label
  | .gotoIf condition name => name = label ∧ Condition.isTrue context condition = true
  | _ => False

/-- The table of a sequence holds all labels of the sequence. -/
def LabelTable.Complete (commands : List Command) (table : LabelTable) : Prop :=
  table = collectLabels commands

namespace Frame.Aligned

variable {frames : List Frame} {scopes : LabelScopes}

/-- The tables above the floor are the labels of the walked sequences. -/
theorem tables_eq (h : Aligned LabelTable.Complete frames scopes) :
    scopes.tables.take (scopes.depth - scopes.floor) =
      (walked frames).map fun walk => collectLabels walk.1 := by
  induction h with
  | empty => rfl
  | @sequence outer tables floor index commands table hfits houter ih =>
    have hfloor : floor ≤ tables.length := houter.floor_le
    simp only [LabelScopes.depth, List.length_cons] at ih ⊢
    rw [Nat.succ_sub hfloor, List.take_succ_cons, ih, hfits]
    rfl
  | loop hloop _ ih => rw [hloop.walked_eq, ih]
  | call houter _ => simp [LabelScopes.depth, walked]

/-- A label resolves to the innermost walked sequence that holds it, at its first occurrence there,
and to nothing if no walked sequence holds it. -/
theorem resolve_lexical (h : Aligned LabelTable.Complete frames scopes) (label : String) :
    match lexicalTarget label ((walked frames).map Prod.fst) with
    | none => scopes.resolve label = none
    | some (owner, around, place) => ∃ scope inner index outer,
        scopes.resolve label = some ⟨scope, place⟩ ∧ scope < scopes.depth ∧
        frames = inner ++ .sequence scope owner index :: outer ∧
        (∀ frame ∈ inner, frame.Passes ⟨scope, place⟩) ∧ (walked outer).map Prod.fst = around := by
  induction h with
  | empty => rfl
  | @sequence outer tables floor index commands table hfits houter ih =>
    have hfloor : ¬ tables.length < floor := Nat.not_lt.mpr houter.floor_le
    have hget : table.get? label = firstLabel? label commands := by
      rw [hfits, get?_collectLabels]
    simp only [walked, List.map_cons, lexicalTarget, LabelScopes.resolve, LabelScopes.search, hfloor,
      if_false, hget]
    cases hfirst : firstLabel? label commands with
    | some place =>
      exact ⟨tables.length, [], index, outer, rfl, Nat.lt_succ_self _, rfl, by simp, rfl⟩
    | none =>
      dsimp only
      split at ih
      next => exact ih
      next owner around place =>
        obtain ⟨scope, inner, old, rest, hresolve, hscope, hframes, hpasses, haround⟩ := ih
        refine ⟨scope, .sequence tables.length commands index :: inner, old, rest, hresolve,
          Nat.lt_succ_of_lt hscope, by rw [hframes]; rfl, ?_, haround⟩
        -- The owner is further out, so its scope is smaller than that of this sequence.
        rintro frame (_ | ⟨_, hmem⟩)
        · exact Nat.ne_of_gt hscope
        · exact hpasses frame hmem
  | @loop frame outer scopes hloop houter ih =>
    rw [hloop.walked_eq]
    split at ih
    next => exact ih
    next owner around place =>
      obtain ⟨scope, inner, old, rest, hresolve, hscope, hframes, hpasses, haround⟩ := ih
      refine ⟨scope, frame :: inner, old, rest, hresolve, hscope, by rw [hframes]; rfl, ?_, haround⟩
      rintro other (_ | ⟨_, hmem⟩)
      · exact hloop.passes _
      · exact hpasses other hmem
  | call houter _ => exact LabelScopes.search_eq_none label (Nat.le_refl _)

end Frame.Aligned

namespace Machine

/-- A machine whose condition holds has decided it without an event. -/
theorem test_of_isTrue {m : Machine} {condition : String}
    (htrue : Condition.isTrue m.context condition = true) : m.test condition = (true, m) := by
  unfold Condition.isTrue at htrue
  unfold test
  cases hdecide : Condition.decide? m.context condition with
  | ok b =>
    rw [hdecide] at htrue
    obtain rfl : b = true := htrue
    rfl
  | error e =>
    rw [hdecide] at htrue
    cases htrue

/-- What a dispatched jump does is what jumping to its label does. -/
theorem dispatch_jump (settings : Settings) (m : Machine) {line : Nat} {instruction : Instruction}
    {label : String} (hjumps : instruction.JumpsTo m.context label) (index : Nat) :
    m.dispatch settings index (.leaf line instruction) =
      (m.counting (.leaf line instruction)).jump line label := by
  rw [dispatch_leaf]
  cases instruction with
  | goto name =>
    cases hjumps
    rfl
  | gotoIf condition name =>
    obtain ⟨rfl, htrue⟩ := hjumps
    have htest := test_of_isTrue (m := m.counting (.leaf line (.gotoIf condition name))) htrue
    simp only [execute, htest, ↓reduceIte]
  | _ => exact hjumps.elim

end Machine

namespace Course

variable {settings : Settings} {commands : List Command} (c : Course settings commands)

/-- If labels are known as soon as their sequence is entered, every table holds all labels of its
sequence. -/
theorem aligned_complete (heager : settings.labelResolution = .eager) (n : Nat) :
    Frame.Aligned LabelTable.Complete (c.state n).frames (c.state n).context.labels := by
  have hinitial (sequence : List Command) :
      LabelTable.Complete sequence (Machine.initialLabels settings sequence) := by
    simp [LabelTable.Complete, Machine.initialLabels, heager]
  have hlazy : settings.labelResolution ≠ .lazy := by
    rw [heager]
    exact nofun
  exact c.invariant (P := fun s => Frame.Aligned LabelTable.Complete s.frames s.labels)
    (.sequence (hinitial commands) .empty)
    (fun _ _ haligned hmove => haligned.move hmove hinitial fun h => absurd h hlazy) n

/-- The text that is being walked is the script, or the body of the function whose call, made at
some earlier turn, is the innermost one in progress. -/
def Rooted (n : Nat) (root : List Command) : Prop :=
  root = commands ∧ (∀ floor, .call floor ∉ (c.state n).frames) ∨
    ∃ inner floor outer k, (c.state n).frames = inner ++ .call floor :: outer ∧
      (∀ other, .call other ∉ inner) ∧ c.Called n k root floor outer

/-- The outermost sequence above the innermost call is the body of a function that was called by a
command, since only a call puts it there. -/
theorem rooted_of_bottom {n : Nat} {root : List Command}
    (hbottom : Frame.Bottom commands root (c.state n).frames) : c.Rooted n root := by
  rcases hbottom with hscript | ⟨inner, scope, place, floor, outer, hframes, hcalls⟩
  · exact .inl hscript
  · obtain ⟨k, hcalled⟩ := c.exists_called ⟨inner, place, hframes⟩
    refine .inr ⟨inner ++ [.sequence scope root place], floor, outer, k, by simp [hframes], ?_, hcalled⟩
    intro other hmem
    rcases List.mem_append.mp hmem with hmem | hmem
    · exact hcalls other hmem
    · cases List.mem_singleton.mp hmem

/-- What a dispatched jump leads to when labels are known from the start, said by the walked
sequences alone. -/
def JumpsLexically (n line : Nat) (label : String) (sequences : List (List Command)) : Prop :=
  match lexicalTarget label sequences with
  | none =>
    (c.state (n + 1)).errors = (c.state n).errors.push (.labelNotFound line label) ∧
      (c.state (n + 1)).control = .leave .next ∧ (c.state (n + 1)).frames = (c.state n).frames
  | some (owner, around, place) =>
    (c.state (n + 1)).errors = (c.state n).errors ∧
      ∃ inner scope index outer k, (c.state n).frames = inner ++ .sequence scope owner index :: outer ∧
        (∀ frame ∈ inner, frame.Passes ⟨scope, place⟩) ∧
        (Frame.walked outer).map Prod.fst = around ∧
        (c.state (n + 1 + k)).control = .fetch ∧
        (c.state (n + 1 + k)).frames = .sequence scope owner place :: outer ∧
        (c.state (n + 1 + k)).steps = (c.state (n + 1)).steps

/-- A jump goes where the walked sequences say, or fails if none of them has the label. -/
theorem jumpsLexically (heager : settings.labelResolution = .eager) {n line : Nat}
    {instruction : Instruction} {label : String} (hdispatch : c.Dispatches n (.leaf line instruction))
    (hjumps : instruction.JumpsTo (c.state n).context label) :
    c.JumpsLexically n line label ((Frame.walked (c.state n).frames).map Prod.fst) := by
  obtain ⟨_, scope, sequence, index, outer, _, _, hnext⟩ := hdispatch
  rw [Machine.dispatch_jump settings _ hjumps] at hnext
  have hresolve := (c.aligned_complete heager n).resolve_lexical label
  have hcontext : ((c.state n).counting (.leaf line instruction)).context = (c.state n).context := rfl
  unfold JumpsLexically
  cases htarget : lexicalTarget label ((Frame.walked (c.state n).frames).map Prod.fst) with
  | none =>
    rw [htarget] at hresolve
    rw [Machine.jump, hcontext, hresolve] at hnext
    rw [hnext]
    exact ⟨rfl, rfl, rfl⟩
  | some found =>
    obtain ⟨owner, around, place⟩ := found
    rw [htarget] at hresolve
    obtain ⟨target, inner, old, rest, hfound, _, hframes, hpasses, haround⟩ := hresolve
    rw [Machine.jump, hcontext, hfound] at hnext
    have hjump : (c.state (n + 1)).control = .leave (.jump ⟨target, place⟩) := by
      rw [hnext]
      rfl
    have hsame : (c.state (n + 1)).frames = (c.state n).frames := by
      rw [hnext]
      rfl
    have herrors : (c.state (n + 1)).errors = (c.state n).errors := by
      rw [hnext]
      rfl
    exact ⟨herrors, inner, target, old, rest, inner.length + 1, hframes, hpasses, haround,
      c.jump_caught hjump (hsame.trans hframes) hpasses⟩

/-- Where labels are known from the start, the tables in reach are at every point of a course the
labels of the sequences that enclose the current command in the text being walked. A dispatched jump
resumes the innermost of these sequences that has the label, at its first occurrence there; if none
has it the jump is reported. What it does is therefore decided by the text and the place in it. -/
theorem goto_lexical (heager : settings.labelResolution = .eager) (n : Nat) {sequence : List Command}
    {index : Nat} {around : List (List Command × Nat)}
    (hwalked : Frame.walked (c.state n).frames = (sequence, index) :: around) :
    ∃ root path, c.Rooted n root ∧
      enclosing root path = some (sequence :: around.map Prod.fst) ∧
      path.map Prod.fst = around.map Prod.snd ∧
      (c.state n).context.labels.tables.take
          ((c.state n).context.labels.depth - (c.state n).context.labels.floor) =
        (sequence :: around.map Prod.fst).map collectLabels ∧
      ∀ line instruction label, c.Dispatches n (.leaf line instruction) →
        instruction.JumpsTo (c.state n).context label →
          sequence[index]? = some (.leaf line instruction) ∧
          c.JumpsLexically n line label (sequence :: around.map Prod.fst) := by
  obtain ⟨root, path, hbottom, hpath, hplaces⟩ := (c.nested n).exists_path hwalked
  have htables := (c.aligned_complete heager n).tables_eq
  refine ⟨root, path, c.rooted_of_bottom hbottom, hpath, hplaces, ?_, ?_⟩
  · rw [htables, hwalked]
    simp
  · intro line instruction label hdispatch hjumps
    have hlexical := c.jumpsLexically heager hdispatch hjumps
    rw [hwalked] at hlexical
    obtain ⟨_, scope, commands, place, outer, hframes, hcommand, _⟩ := hdispatch
    rw [hframes] at hwalked
    cases hwalked
    exact ⟨hcommand, hlexical⟩

end Course

/-- A loop of one pass whose body jumps back to a label before the loop. -/
def backwardJump : List Command :=
  [.leaf 1 (.label "top"), .counted 2 ⟨1, by decide, by decide⟩ none [.leaf 3 (.goto "top")]]

/-- The rehearsal of `backwardJump`. -/
def backwardCourse : Course Settings.default backwardJump :=
  Run.course Settings.default Rehearsal.device backwardJump (.plain (.new [] [] false)) false

/-- The fifth turn of the rehearsal dispatches the jump, and leaves the body and the loop for the
label at the start of the script. -/
theorem backwardCourse_jumps :
    backwardCourse.Dispatches 4 (.leaf 3 (.goto "top")) ∧
      lexicalTarget "top" [[.leaf 3 (.goto "top")], backwardJump] = some (backwardJump, [], 0) ∧
      backwardCourse.JumpsLexically 4 3 "top" [[.leaf 3 (.goto "top")], backwardJump] := by
  have hdispatch : backwardCourse.Dispatches 4 (.leaf 3 (.goto "top")) :=
    ⟨rfl, _, _, _, _, rfl, rfl, rfl⟩
  have hwalked : Frame.walked (backwardCourse.state 4).frames =
      [([.leaf 3 (.goto "top")], 0), (backwardJump, 1)] := rfl
  obtain ⟨_, _, _, _, _, _, hjump⟩ := backwardCourse.goto_lexical rfl 4 hwalked
  exact ⟨hdispatch, rfl, (hjump 3 (.goto "top") "top" hdispatch rfl).2⟩

end TouchScript
