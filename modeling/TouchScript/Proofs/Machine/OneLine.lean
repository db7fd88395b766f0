import TouchScript.Proofs.Machine.Course
import TouchScript.Proofs.Machine.Parts
import TouchScript.Proofs.Script.Formed
import TouchScript.Proofs.Text.OneLine

namespace TouchScript

open Text

/-- The texts of a template search. -/
def ImageLookup.texts (lookup : ImageLookup) : List String :=
  [lookup.path, lookup.xVar, lookup.yVar] ++ lookup.confidenceVar.toList

/-- The texts in an instruction: names, tokens, conditions, messages and paths. -/
def Instruction.texts : Instruction → List String
  | .gesture _ | .delay _ | .stop => []
  | .set name (.literal token) => [name, token]
  | .set name (.binary lhs _ rhs) => [name, lhs, rhs]
  | .get name | .label name | .goto name | .logVariable name | .call name => [name]
  | .gotoIf condition target => [condition, target]
  | .log message | .overlay message => [message]
  | .find lookup => lookup.texts

namespace Command

/-- The texts in a command, those in its blocks apart. -/
def texts : Command → List String
  | .leaf _ instruction => instruction.texts
  | .branch _ condition _ _ | .loop _ condition _ => [condition]
  | .counted _ _ counter _ => counter.toList
  | .function _ name _ => [name]

/-- No text in a sequence or in its blocks is broken. -/
def Unbroken (commands : List Command) : Prop :=
  ∀ command ∈ allOf commands, ∀ s ∈ command.texts, OneLine s

mutual

/-- Well-formed commands are well formed throughout. -/
theorem wellFormed_of_mem_all : ∀ {command : Command}, command.WellFormed →
    ∀ other ∈ command.all, other.WellFormed
  | .leaf _ _, h => List.forall_mem_singleton.mpr h
  | .branch _ _ _ _, h => List.forall_mem_cons.mpr ⟨h, List.forall_mem_append.mpr
      ⟨wellFormed_of_mem_allOf h.2.1, wellFormed_of_mem_allOf h.2.2⟩⟩
  | .loop _ _ _, h | .counted _ _ _ _, h | .function _ _ _, h =>
    List.forall_mem_cons.mpr ⟨h, wellFormed_of_mem_allOf h.2⟩

/-- If commands are well formed, so are those in their blocks. -/
theorem wellFormed_of_mem_allOf : ∀ {commands : List Command}, AllWellFormed commands →
    ∀ other ∈ allOf commands, other.WellFormed
  | [], _ => nofun
  | _ :: _, h => List.forall_mem_append.mpr ⟨wellFormed_of_mem_all h.1, wellFormed_of_mem_allOf h.2⟩

end

/-- A well-formed command has texts on one line. -/
theorem oneLine_texts {command : Command} (h : command.WellFormed) : ∀ s ∈ command.texts, OneLine s := by
  cases command with
  | leaf line instruction =>
    cases instruction with
    | gesture g => nofun
    | delay ms => nofun
    | stop => nofun
    | set name source =>
      cases source with
      | literal token =>
        obtain ⟨hname, htoken⟩ := h
        simp [texts, Instruction.texts, hname.oneLine, htoken.oneLine]
      | binary lhs op rhs =>
        obtain ⟨hname, hlhs, hrhs⟩ := h
        simp [texts, Instruction.texts, hname.oneLine, hlhs.oneLine, hrhs.oneLine]
    | get name | label name | goto name | logVariable name | call name =>
      exact List.forall_mem_singleton.mpr (IsToken.oneLine h)
    | gotoIf condition label =>
      obtain ⟨hcondition, hlabel⟩ := h
      simp [texts, Instruction.texts, hcondition.oneLine, hlabel.oneLine]
    | log message | overlay message => exact List.forall_mem_singleton.mpr (IsPhrase.oneLine h)
    | find lookup =>
      obtain ⟨hpath, hx, hy, hconfidence⟩ := h
      have hlast : ∀ s ∈ lookup.confidenceVar.toList, OneLine s := fun s hs =>
        (hconfidence s (Option.mem_toList.mp hs)).oneLine
      simpa [texts, Instruction.texts, ImageLookup.texts, hpath.oneLine, hx.oneLine, hy.oneLine] using hlast
  | branch line condition thenBlock elseBlock => exact List.forall_mem_singleton.mpr h.1.oneLine
  | loop line condition body => exact List.forall_mem_singleton.mpr h.1.oneLine
  | counted line count counter body =>
    exact fun s hs => oneLine_of_noBlank (h.1 s (Option.mem_toList.mp hs)).1
  | function line name body => exact List.forall_mem_singleton.mpr h.1.oneLine

/-- A part of an unbroken script is unbroken. -/
theorem Unbroken.part {script commands : List Command} (h : Unbroken script) (hpart : Part script commands) :
    Unbroken commands :=
  fun command hcommand => h command (hpart.subset hcommand)

end Command

/-- No text in a script that has been read is broken. -/
theorem Script.unbroken_parse (strict : Bool) (source : String) :
    Command.Unbroken (parse strict source).commands :=
  fun command hcommand =>
    Command.oneLine_texts (Command.wellFormed_of_mem_allOf (allWellFormed_parse strict source) command hcommand)

namespace Bindings

variable {α : Type} {p : String × α → Prop} {b : Bindings α}

/-- What is read has been written. -/
theorem mem_of_get? {name : String} {value : α} (h : b.get? name = some value) : (name, value) ∈ b := by
  induction b with
  | nil => cases h
  | cons entry rest ih =>
    obtain ⟨key, old⟩ := entry
    rw [get?] at h
    split at h
    next hkey =>
      cases h
      rw [hkey]
      exact .head _
    next => exact .tail _ (ih h)

/-- Writing a good value keeps all values good. -/
theorem forall_mem_set (h : ∀ x ∈ b, p x) {name : String} {value : α} (hnew : p (name, value)) :
    ∀ x ∈ b.set name value, p x := by
  induction b with
  | nil => exact List.forall_mem_singleton.mpr hnew
  | cons entry rest ih =>
    obtain ⟨key, old⟩ := entry
    obtain ⟨hentry, hrest⟩ := List.forall_mem_cons.mp h
    rw [set]
    split
    next hkey =>
      rw [hkey]
      exact List.forall_mem_cons.mpr ⟨hnew, hrest⟩
    next => exact List.forall_mem_cons.mpr ⟨hentry, ih hrest⟩

/-- So does writing it only where there is none. -/
theorem forall_mem_setNew (h : ∀ x ∈ b, p x) {name : String} {value : α} (hnew : p (name, value)) :
    ∀ x ∈ b.setNew name value, p x := by
  unfold setNew
  split
  · exact h
  · exact forall_mem_set h hnew

end Bindings

/-- No name in a table of labels is broken. -/
def LabelTable.Unbroken (table : LabelTable) : Prop :=
  ∀ entry ∈ table, OneLine entry.1

/-- The labels of an unbroken sequence are unbroken. -/
theorem unbroken_collectLabels {commands : List Command} (h : Command.Unbroken commands) :
    LabelTable.Unbroken (collectLabels commands) := by
  unfold collectLabels
  refine List.foldlRecOn commands.zipIdx _ (List.forall_mem_nil _) fun table htable entry hentry => ?_
  obtain ⟨command, index⟩ := entry
  dsimp only
  split
  next name hlabel =>
    have hname : OneLine name := by
      unfold Command.label? at hlabel
      split at hlabel
      next line other =>
        cases hlabel
        exact h _ (Command.mem_allOf (List.fst_mem_of_mem_zipIdx hentry)) name (.head _)
      next => cases hlabel
    exact Bindings.forall_mem_setNew htable hname
  next => exact htable

/-- An unbroken sequence is entered with unbroken labels, or with none. -/
theorem unbroken_initialLabels (settings : Settings) {commands : List Command}
    (h : Command.Unbroken commands) : LabelTable.Unbroken (Machine.initialLabels settings commands) := by
  unfold Machine.initialLabels
  split
  · exact unbroken_collectLabels h
  · exact List.forall_mem_nil _

/-- No name and no value in a context is broken. -/
structure Context.Unbroken (ctx : Context) : Prop where
  values : ∀ entry ∈ ctx.values, OneLine entry.1 ∧ OneLine entry.2.toText
  counters : ∀ entry ∈ ctx.counters, OneLine entry.1
  functions : ∀ entry ∈ ctx.functions, OneLine entry.1
  labels : ∀ table ∈ ctx.labels.tables, table.Unbroken

namespace Context.Unbroken

variable {ctx : Context} (h : ctx.Unbroken)
include h

/-- An unbroken value may be written under an unbroken name. -/
theorem setVariable {name : String} {value : Value} (hname : OneLine name) (hvalue : OneLine value.toText) :
    (ctx.setVariable name value).Unbroken :=
  ⟨Bindings.forall_mem_set h.values ⟨hname, hvalue⟩, h.counters, h.functions, h.labels⟩

/-- A counter is a number, so only its name matters. -/
theorem setCounter {name : String} (hname : OneLine name) (n : Number) : (ctx.setCounter name n).Unbroken :=
  ⟨h.values, Bindings.forall_mem_set h.counters hname, h.functions, h.labels⟩

/-- Of a function only the name is a text of the context. -/
theorem define {name : String} (hname : OneLine name) (body : List Command) : (ctx.define name body).Unbroken :=
  ⟨h.values, h.counters, Bindings.forall_mem_set h.functions hname, h.labels⟩

/-- A variable has a text on one line. -/
theorem oneLine_of_get? {name : String} {value : Value} (hget : ctx.values.get? name = some value) :
    OneLine value.toText :=
  (h.values _ (Bindings.mem_of_get? hget)).2

/-- The value of a token is not broken. -/
theorem oneLine_resolve {token : String} (htoken : OneLine token) : OneLine (ctx.resolve token).toText := by
  unfold resolve
  split
  next name _ =>
    cases hget : ctx.values.get? (String.ofList name) with
    | none => exact oneLine_ofInt _
    | some value => exact h.oneLine_of_get? hget
  next => exact oneLine_ofInt _
  next =>
    refine Value.oneLine_ofLiteral ?_
    rw [oneLine_ofList]
    exact fun hmem => htoken (Chars.mem_of_mem_trim hmem)

/-- A message on one line stays so when its references are replaced, since only values on one line
are put in. -/
theorem oneLine_interpolate {message : String} (hmessage : OneLine message) :
    OneLine (ctx.interpolate message) := by
  refine oneLine_join (by decide) fun s hs => ?_
  obtain ⟨word, hword, rfl⟩ := List.mem_map.mp hs
  have hline := oneLine_of_mem_unspaced hmessage hword
  split
  · exact h.oneLine_resolve hline
  · exact hline

end Context.Unbroken

/-- The texts of a log call. -/
def LogCall.texts : LogCall Millis → List String
  | .message text => [text]
  | .namedValue name value => [name, value]
  | .overlay text _ => [text]

/-- The texts of the call that a machine waits for. -/
def Control.texts : Control → List String
  | .search _ lookup => lookup.texts
  | .tell call => call.texts
  | _ => []

/-- The texts in a frame, those in its commands apart. -/
def Frame.texts : Frame → List String
  | .loop condition _ => [condition]
  | .counted _ _ counter _ => counter.toList
  | .sequence _ _ _ | .call _ => []

/-- The texts that an error takes from the script. -/
def RunError.texts : RunError → List String
  | .labelNotFound _ label => [label]
  | .functionNotFound _ name | .callDepthExceeded _ name _ => [name]
  | .arithmetic _ _ _ _ | .device _ _ _ => []

/-- No text in a machine is broken. -/
structure Machine.Unbroken (m : Machine) : Prop where
  context : m.context.Unbroken
  frames : ∀ frame ∈ m.frames, ∀ s ∈ frame.texts, OneLine s
  control : ∀ s ∈ m.control.texts, OneLine s
  errors : ∀ e ∈ m.errors, ∀ s ∈ e.texts, OneLine s

namespace Machine.Unbroken

variable {settings : Settings} {m : Machine} (h : m.Unbroken)
include h

theorem note (e : Event) : (m.note e).Unbroken :=
  ⟨h.context, h.frames, h.control, h.errors⟩

theorem noted (events : List Event) : (events.foldl Machine.note m).Unbroken := by
  obtain ⟨noted, hnoted⟩ := m.foldl_note_eq events
  rw [hnoted]
  exact ⟨h.context, h.frames, h.control, h.errors⟩

theorem counting (command : Command) : (m.counting command).Unbroken :=
  ⟨h.context, h.frames, h.control, h.errors⟩

/-- An error may be noted if the names in it are unbroken. -/
theorem fail {e : RunError} (he : ∀ s ∈ e.texts, OneLine s) : (m.fail e).Unbroken := by
  refine ⟨h.context, h.frames, h.control, ?_⟩
  simpa [Machine.fail, Machine.note, or_imp, forall_and] using ⟨h.errors, he⟩

/-- A machine may go on with whatever waits for unbroken texts. -/
theorem goOn {control : Control} (hcontrol : ∀ s ∈ control.texts, OneLine s) : (m.goOn control).Unbroken :=
  ⟨h.context, h.frames, hcontrol, h.errors⟩

theorem next : m.next.Unbroken :=
  h.goOn nofun

theorem withContext {context : Context} (hcontext : context.Unbroken) : (m.withContext context).Unbroken :=
  ⟨hcontext, h.frames, h.control, h.errors⟩

/-- The tables of labels may be exchanged for unbroken ones. -/
theorem withLabels {labels : LabelScopes} (hlabels : ∀ table ∈ labels.tables, table.Unbroken) :
    (m.withLabels labels).Unbroken :=
  ⟨⟨h.context.values, h.context.counters, h.context.functions, hlabels⟩, h.frames, h.control, h.errors⟩

/-- No text of the innermost frame is broken, and none of the frames outside of it. -/
theorem of_cons {frame : Frame} {outer : List Frame} (hframes : m.frames = frame :: outer) :
    (∀ s ∈ frame.texts, OneLine s) ∧ ∀ other ∈ outer, ∀ s ∈ other.texts, OneLine s :=
  List.forall_mem_cons.mp (hframes ▸ h.frames)

/-- Other frames and another control. -/
theorem withFrames {frames : List Frame} (hframes : ∀ frame ∈ frames, ∀ s ∈ frame.texts, OneLine s)
    {control : Control} (hcontrol : ∀ s ∈ control.texts, OneLine s) :
    Unbroken { m with frames, control } :=
  ⟨h.context, hframes, hcontrol, h.errors⟩

/-- An unbroken sequence may be entered. -/
theorem enter {commands : List Command} (hcommands : Command.Unbroken commands) :
    (m.enter settings commands).Unbroken := by
  refine (h.withLabels ?_).withFrames ?_ nofun
  · exact List.forall_mem_cons.mpr ⟨unbroken_initialLabels settings hcommands, h.context.labels⟩
  · exact List.forall_mem_cons.mpr ⟨nofun, h.frames⟩

theorem exitSequence {outer : List Frame} (houter : ∀ frame ∈ outer, ∀ s ∈ frame.texts, OneLine s)
    (flow : Flow) : (m.exitSequence outer flow).Unbroken :=
  (h.withLabels fun table htable => h.context.labels table (List.mem_of_mem_tail htable)).withFrames houter nofun

theorem exitLoop {outer : List Frame} (houter : ∀ frame ∈ outer, ∀ s ∈ frame.texts, OneLine s)
    (flow : Flow) : (m.exitLoop outer flow).Unbroken :=
  h.withFrames houter nofun

/-- A call that is left restores labels that were unbroken before. -/
theorem exitCall {outer : List Frame} (houter : ∀ frame ∈ outer, ∀ s ∈ frame.texts, OneLine s)
    (floor : Nat) (flow : Flow) : (m.exitCall outer floor flow).Unbroken :=
  ⟨⟨h.context.values, h.context.counters, h.context.functions, h.context.labels⟩, houter, nofun, h.errors⟩

/-- The condition that is tested goes to the events, not into the machine. -/
theorem test (condition : String) : (m.test condition).2.Unbroken := by
  unfold Machine.test
  split
  · exact h
  · exact h.note _

/-- A jump puts its label into an error at most. -/
theorem jump {label : String} (hlabel : OneLine label) (line : Nat) : (m.jump line label).Unbroken := by
  unfold Machine.jump
  split
  · exact (h.note _).goOn nofun
  · refine (h.fail ?_).next
    exact List.forall_mem_singleton.mpr hlabel

/-- A call enters a body that is unbroken, or puts the name into an error. -/
theorem call {name : String} (hname : OneLine name) (line : Nat)
    (hfunctions : ∀ body, m.context.functions.get? name = some body → Command.Unbroken body) :
    (m.call settings line name).Unbroken := by
  unfold Machine.call
  split
  next =>
    refine (h.fail ?_).next
    exact List.forall_mem_singleton.mpr hname
  next body hbody =>
    split
    · refine (h.fail ?_).next
      exact List.forall_mem_singleton.mpr hname
    · refine enter ?_ (hfunctions body hbody)
      exact ⟨⟨h.context.values, h.context.counters, h.context.functions, h.context.labels⟩,
        List.forall_mem_cons.mpr ⟨nofun, h.frames⟩, h.control, h.errors⟩

/-- A value that is written is not broken: it is copied, computed, or spelled with its operator. -/
theorem assign {name : String} {source : SetSource}
    (hset : ∀ s ∈ (Instruction.set name source).texts, OneLine s) (line : Nat) :
    (m.assign settings line name source).Unbroken := by
  unfold Machine.assign
  split
  next token =>
    have hname := hset name (.head _)
    have htoken := hset token (.tail _ (.head _))
    exact h.withContext (h.context.setVariable hname (h.context.oneLine_resolve htoken))
  next lhs op rhs =>
    have hname := hset name (.head _)
    have hlhs := hset lhs (.tail _ (.head _))
    have hrhs := hset rhs (.tail _ (.tail _ (.head _)))
    split
    · dsimp only
      split
      · exact h.withContext (h.context.setVariable hname (oneLine_ofInt _))
      · exact h.fail nofun
    · refine h.withContext (h.context.setVariable hname ?_)
      have hsymbol : OneLine op.symbol := by cases op <;> decide
      simp +decide [Value.toText, hlhs, hsymbol, hrhs]

/-- What a `logvar` shows is on one line. -/
theorem oneLine_shownValue (name : String) : OneLine (m.shownValue name) := by
  unfold shownValue
  split
  next value hget => exact h.context.oneLine_of_get? hget
  next => decide

/-- Whatever an instruction of the script does, it breaks no text. -/
theorem execute {instruction : Instruction} (htexts : ∀ s ∈ instruction.texts, OneLine s)
    (hfunctions : ∀ name body, m.context.functions.get? name = some body → Command.Unbroken body)
    (line index : Nat) : (m.execute settings line index instruction).Unbroken := by
  cases instruction with
  | gesture g => exact h.goOn nofun
  | delay ms => exact h.goOn nofun
  | stop => exact ⟨h.context, h.frames, nofun, h.errors⟩
  | set name source => exact (h.assign htexts line).next
  | get name =>
    simp only [Machine.execute]
    split
    · exact (h.note _).next
    · exact (h.note _).next
  | label name =>
    simp only [Machine.execute]
    split
    · exact h.next
    · refine (h.withLabels ?_).next
      unfold LabelScopes.register
      split
      next => exact h.context.labels
      next table outer htables =>
        have hlabels := h.context.labels
        rw [htables, List.forall_mem_cons] at hlabels
        exact List.forall_mem_cons.mpr
          ⟨Bindings.forall_mem_set hlabels.1 (htexts name (.head _)), hlabels.2⟩
  | goto label => exact h.jump (htexts label (.head _)) line
  | gotoIf condition label =>
    simp only [Machine.execute]
    split
    · exact (h.test condition).jump (htexts label (.tail _ (.head _))) line
    · exact (h.test condition).next
  | log message =>
    exact h.goOn (List.forall_mem_singleton.mpr (h.context.oneLine_interpolate (htexts message (.head _))))
  | overlay message =>
    exact h.goOn (List.forall_mem_singleton.mpr (h.context.oneLine_interpolate (htexts message (.head _))))
  | logVariable name =>
    exact h.goOn (List.forall_mem_cons.mpr
      ⟨htexts name (.head _), List.forall_mem_singleton.mpr (h.oneLine_shownValue name)⟩)
  | find lookup => exact h.goOn htexts
  | call name => exact h.call (htexts name (.head _)) line (hfunctions name)

/-- A command of unbroken texts, with unbroken blocks, leaves the machine unbroken. -/
theorem dispatch {command : Command} (htexts : ∀ s ∈ command.texts, OneLine s)
    (hbodies : ∀ body ∈ command.bodies, Command.Unbroken body)
    (hfunctions : ∀ name body, m.context.functions.get? name = some body → Command.Unbroken body)
    (index : Nat) : (m.dispatch settings index command).Unbroken := by
  have hcounting := h.counting command
  cases command with
  | leaf line instruction => exact hcounting.execute htexts hfunctions line index
  | branch line condition thenBlock elseBlock =>
    obtain ⟨holds, tested, htest⟩ : ∃ holds tested,
      (m.counting (.branch line condition thenBlock elseBlock)).test condition = (holds, tested) := ⟨_, _, rfl⟩
    have htested := hcounting.test condition
    rw [htest] at htested
    rw [dispatch_branch settings m htest]
    refine htested.enter (hbodies _ ?_)
    cases holds <;> simp [Command.bodies]
  | loop line condition body | counted line count counter body =>
    refine hcounting.withFrames ?_ (List.forall_mem_nil _)
    exact List.forall_mem_cons.mpr ⟨htexts, h.frames⟩
  | function line name body =>
    exact (hcounting.withContext (hcounting.context.define (htexts name (.head _)) body)).next

variable {script : List Command} (hscript : Command.Unbroken script) (hwithin : m.skeleton.Within script)
include hscript hwithin

/-- The current command is unbroken, as it stands in an unbroken frame. -/
theorem fetch (cancelled : Bool) : (m.fetch settings cancelled).Unbroken := by
  unfold Machine.fetch
  split
  next scope commands index outer hframes =>
    have houter := (h.of_cons hframes).2
    split
    · exact h.exitSequence houter .halt
    · split
      next command hcommand =>
        have hpart := (hwithin.of_cons hframes).1 commands rfl
        have hmem := List.mem_of_getElem? hcommand
        exact h.dispatch (hscript command (hpart.mem hmem))
          (fun body hbody => hscript.part (hpart.body hmem hbody))
          (fun name body hbody => hscript.part (hwithin.functions name body hbody)) index
      next => exact h.exitSequence houter .next
  next => exact h.goOn nofun

/-- A loop has an unbroken body and, if it counts, an unbroken counter. -/
theorem again (cancelled : Bool) : (m.again settings cancelled).Unbroken := by
  unfold Machine.again
  split
  next condition body outer hframes =>
    have houter := (h.of_cons hframes).2
    split
    · exact h.exitLoop houter .halt
    · have hbody := hscript.part ((hwithin.of_cons hframes).1 body rfl)
      have htested := h.test condition
      generalize m.test condition = tested at htested ⊢
      obtain ⟨holds, tested⟩ := tested
      cases holds with
      | true => exact htested.enter hbody
      | false => exact htested.exitLoop houter .next
  next count passes counter body outer hframes =>
    obtain ⟨hcounter, houter⟩ := h.of_cons hframes
    have hcounted {context : Context} (hcontext : context.Unbroken) :
        Unbroken { m with context, frames := .counted count (passes + 1) counter body :: outer } :=
      ⟨hcontext, List.forall_mem_cons.mpr ⟨hcounter, houter⟩, h.control, h.errors⟩
    split
    · exact h.exitLoop houter .next
    · split
      · exact h.exitLoop houter .halt
      · refine (hcounted ?_).enter (hscript.part ((hwithin.of_cons hframes).1 body rfl))
        split
        next name => exact h.context.setCounter (hcounter name (.head _)) _
        next => exact h.context
  next => exact h.goOn nofun

omit hscript hwithin

/-- To leave a frame brings in no text. -/
theorem leave (flow : Flow) : (m.leave flow).Unbroken := by
  unfold Machine.leave
  split
  next => exact h
  next scope commands index outer hframes =>
    have houter := (h.of_cons hframes).2
    have hsequence (index : Nat) :
        ∀ frame ∈ .sequence scope commands index :: outer, ∀ s ∈ frame.texts, OneLine s :=
      List.forall_mem_cons.mpr ⟨nofun, houter⟩
    split
    · exact h.withFrames (hsequence _) nofun
    · split
      · exact h.withFrames (hsequence _) nofun
      · exact h.exitSequence houter _
    · exact h.exitSequence houter _
  next hframes =>
    split
    · exact h.goOn nofun
    · exact h.exitLoop (h.of_cons hframes).2 _
  next hframes =>
    split
    · exact h.goOn nofun
    · exact h.exitLoop (h.of_cons hframes).2 _
  next hframes => exact h.exitCall (h.of_cons hframes).2 _ _

/-- The error of a gesture that failed names no text of the script. -/
theorem performed (line : Nat) (g : Gesture Millis) (result : Except DeviceError Unit) :
    (m.performed settings line g result).Unbroken := by
  have hnoted : ∀ e : DeviceError, (m.fail (.device line g.keyword e)).Unbroken := fun e => h.fail nofun
  unfold Machine.performed
  cases result with
  | ok _ =>
    dsimp only
    split
    · exact h.next
    · exact h.goOn nofun
  | error e =>
    dsimp only
    split
    · exact (hnoted e).next
    · exact (hnoted e).goOn nofun

/-- What a search writes is not broken, whatever has been found. -/
theorem searched {lookup : ImageLookup} (hlookup : ∀ s ∈ lookup.texts, OneLine s) (line : Nat)
    (result : Except DeviceError ImageMatch) : (m.searched line lookup result).Unbroken := by
  have hnumber (n : Number) : OneLine (Value.number n).toText := oneLine_ofInt _
  have hx : OneLine lookup.xVar := hlookup _ (by simp [ImageLookup.texts])
  have hy : OneLine lookup.yVar := hlookup _ (by simp [ImageLookup.texts])
  have hposition {m : Machine} (h : m.Unbroken) (answer : ImageMatch) :=
    (h.context.setVariable hx (hnumber answer.x.toNumber)).setVariable hy (hnumber answer.y.toNumber)
  have hnoted (e : DeviceError) : (m.fail (.device line (Instruction.find lookup).keyword e)).Unbroken :=
    h.fail (List.forall_mem_nil _)
  unfold Machine.searched
  cases hname : lookup.confidenceVar with
  | none =>
    cases result with
    | ok answer => exact ((h.note _).withContext (hposition h _)).next
    | error e => exact (((hnoted e).note _).withContext (hposition h _)).next
  | some name =>
    have hconfidence : OneLine name := hlookup name (by simp [ImageLookup.texts, hname])
    have hwritten {m : Machine} (h : m.Unbroken) (answer : ImageMatch) :=
      (hposition h answer).setVariable hconfidence
        (show OneLine (Value.text answer.confidence.textWithPoint).toText from
          answer.confidence.oneLine_textWithPoint)
    cases result with
    | ok answer => exact ((h.note _).withContext (hwritten h _)).next
    | error e => exact (((hnoted e).note _).withContext (hwritten h _)).next

variable {σ : Type}

/-- After a call the machine is unbroken if every way to resume leaves it so. -/
theorem afterCall {α : Type} (device : σ) (cancelled : Bool) (answer : Answer α)
    {resume : Except DeviceError α → Machine} (hresume : ∀ result, (resume result).Unbroken) :
    (m.afterCall device cancelled answer resume).machine.Unbroken := by
  unfold Machine.afterCall
  cases answer.reply with
  | ok result => exact hresume (.ok result)
  | error e => exact hresume (.error e)
  | crash o => exact h

/-- A turn breaks no text, whatever the surroundings answer. -/
theorem turn {script : List Command} (hscript : Command.Unbroken script)
    (hwithin : m.skeleton.Within script) (d : Device σ) (device : σ) (cancelled : Bool) :
    (m.turn settings d device cancelled).machine.Unbroken := by
  unfold Machine.turn
  cases hcontrol : m.control with
  | fetch => exact h.fetch hscript hwithin cancelled
  | again => exact h.again hscript hwithin cancelled
  | leave flow =>
    dsimp only
    split
    · exact h
    · exact h.leave flow
  | perform line g => exact h.afterCall _ _ _ (h.performed line g)
  | search line lookup =>
    have hlookup : ∀ s ∈ lookup.texts, OneLine s := by
      simpa only [hcontrol, Control.texts] using h.control
    exact h.afterCall _ _ _ (h.searched hlookup line)
  | tell call => exact (h.noted _).next
  | pause duration => exact h.next
  | yield => exact h.goOn nofun

end Machine.Unbroken

/-- No text in a machine that starts on a script is broken. -/
theorem Machine.unbroken_start (settings : Settings) {commands : List Command}
    (hcommands : Command.Unbroken commands) : (Machine.start settings commands).Unbroken := by
  have hcontext : Context.empty.Unbroken :=
    ⟨List.forall_mem_nil _, List.forall_mem_nil _, List.forall_mem_nil _, List.forall_mem_nil _⟩
  have hempty : Unbroken ⟨Context.empty, [], .fetch, 0, 0, false, #[], #[]⟩ :=
    ⟨hcontext, List.forall_mem_nil _, List.forall_mem_nil _, by simp⟩
  exact hempty.enter hcommands

/-- Along a course of a script without broken texts no text is ever broken. -/
theorem Course.unbroken {settings : Settings} {commands : List Command} (c : Course settings commands)
    (hcommands : Command.Unbroken commands) (n : Nat) : (c.state n).Unbroken := by
  induction n with
  | zero =>
    rw [c.start]
    exact Machine.unbroken_start settings hcommands
  | succ n ih =>
    obtain ⟨σ, d, device, cancelled, hturn⟩ := c.turn n
    rw [hturn]
    exact ih.turn hcommands (c.within_script n) d device cancelled

end TouchScript
