import TouchScript.Proofs.Labels.Lexical
import TouchScript.Proofs.Labels.Relabelled
import TouchScript.Proofs.Machine.Ledger
import TouchScript.Proofs.Machine.Parts
import TouchScript.Proofs.Run.Calls

namespace TouchScript

/-- The names of the labels in a sequence, without those in its blocks. -/
def directLabels (commands : List Command) : List String :=
  commands.filterMap Command.label?

/-- The names of the labels in a sequence and in its blocks, the bodies of functions included. -/
def labelNames (commands : List Command) : List String :=
  (Command.allOf commands).filterMap Command.label?

/-- The labels of two sequences in a row are those of both. -/
theorem labelNames_append (commands more : List Command) :
    labelNames (commands ++ more) = labelNames commands ++ labelNames more := by
  simp [labelNames, Command.allOf_eq]

/-- The labels of a sequence itself are among all its labels, in order. -/
theorem directLabels_sublist (commands : List Command) :
    (directLabels commands).Sublist (labelNames commands) := by
  refine List.Sublist.filterMap _ ?_
  induction commands with
  | nil => exact .slnil
  | cons command rest ih =>
    rw [Command.allOf, Command.all_eq]
    exact (ih.trans (List.sublist_append_right _ _)).cons_cons command

/-- The labels of a part of a script are among those of the script. -/
theorem Part.labelNames_sublist {script commands : List Command} (h : Part script commands) :
    (labelNames commands).Sublist (labelNames script) :=
  List.Sublist.filterMap _ h

/-- A label whose name stands once in its sequence is the first of that name. -/
theorem firstLabel?_of_nodup {commands : List Command} (hnodup : (directLabels commands).Nodup)
    {index line : Nat} {name : String} (hlabel : commands[index]? = some (.leaf line (.label name))) :
    firstLabel? name commands = some index := by
  induction commands generalizing index with
  | nil => cases hlabel
  | cons command rest ih =>
    rw [firstLabel?_cons]
    cases index with
    | zero =>
      cases hlabel
      exact if_pos rfl
    | succ index =>
      rw [List.getElem?_cons_succ] at hlabel
      have hmem : name ∈ directLabels rest :=
        List.mem_filterMap.mpr ⟨_, List.mem_of_getElem? hlabel, rfl⟩
      have hother : command.label? ≠ some name := by
        intro hsame
        rw [directLabels, List.filterMap_cons_some hsame] at hnodup
        exact (List.nodup_cons.mp hnodup).1 hmem
      have hrest : (directLabels rest).Nodup :=
        hnodup.sublist ((List.sublist_cons_self _ _).filterMap _)
      rw [if_neg hother, ih hrest hlabel]
      rfl

/-- A command with a block is no label. -/
theorem Command.label?_eq_none_of_block {command : Command} {block : List Command}
    (hblock : block ∈ command.blocks) : command.label? = none := by
  cases command with
  | leaf line instruction => cases hblock
  | _ => rfl

/-- The labels inside a block, and those that stand beside the command of the block, are labels of the
sequence around. -/
theorem labelNames_block {commands block : List Command} {index : Nat} {command : Command}
    (hcommand : commands[index]? = some command) (hblock : block ∈ command.blocks) :
    ∃ names, (labelNames block ++ directLabels commands).Perm names ∧
      names.Sublist (labelNames commands) := by
  obtain ⟨before, after, rfl⟩ := List.append_of_mem (List.mem_of_getElem? hcommand)
  have hbeside : directLabels (before ++ command :: after) = directLabels before ++ directLabels after := by
    simp [directLabels, Command.label?_eq_none_of_block hblock]
  have hpart : Part [command] block :=
    Part.body (.refl _) List.mem_cons_self (Command.mem_bodies_of_block hblock)
  refine ⟨directLabels before ++ (labelNames block ++ directLabels after), ?_, ?_⟩
  · rw [hbeside]
    exact List.perm_append_comm_assoc _ _ _
  · rw [← List.singleton_append, labelNames_append, labelNames_append]
    exact (directLabels_sublist before).append (hpart.labelNames_sublist.append (directLabels_sublist after))

/-- Sequences that enclose a place in a text have no label in common. -/
theorem nodup_enclosing {root : List Command} (hunique : (labelNames root).Nodup)
    {path : List (Nat × Nat)} {commands : List Command} {around : List (List Command)}
    (hpath : enclosing root path = some (commands :: around)) :
    (labelNames commands ++ around.flatMap directLabels).Nodup := by
  induction path generalizing commands around with
  | nil =>
    cases hpath
    simpa using hunique
  | cons step path ih =>
    obtain ⟨index, side⟩ := step
    simp only [enclosing, Option.bind_eq_bind, Option.bind_eq_some_iff, Option.pure_def,
      Option.some.injEq, List.cons.injEq] at hpath
    obtain ⟨outside, hpath, sequence, hhead, command, hcommand, block, hside, rfl, rfl⟩ := hpath
    obtain ⟨rest, rfl⟩ : ∃ rest, outside = sequence :: rest := by
      cases outside with
      | nil => cases hhead
      | cons first rest =>
        cases hhead
        exact ⟨rest, rfl⟩
    obtain ⟨names, hperm, hsublist⟩ := labelNames_block hcommand (List.mem_of_getElem? hside)
    have hnames : (names ++ rest.flatMap directLabels).Nodup :=
      (ih hpath).sublist (hsublist.append_right _)
    rw [List.flatMap_cons, ← List.append_assoc]
    exact (hperm.append_right _).nodup_iff.mpr hnames

namespace Frame

/-- No name stands for two labels in reach of the current command. -/
def LabelsApart (frames : List Frame) : Prop :=
  ((walked frames).flatMap fun walk => directLabels walk.1).Nodup

namespace Aligned

/-- Where no two labels in reach have the same name, a label that is found among those that have been
executed is found at the same place among all. -/
theorem resolve_complete {frames : List Frame} {scopes scopes' : LabelScopes}
    (hsound : Aligned LabelTable.Sound frames scopes)
    (hcomplete : Aligned LabelTable.Complete frames scopes') (hapart : LabelsApart frames)
    {name : String} {target : LabelTarget} (hresolve : scopes.resolve name = some target) :
    scopes'.resolve name = some target ∧
      name ∈ (walked frames).flatMap fun walk => directLabels walk.1 := by
  induction hsound generalizing scopes' with
  | empty => cases hresolve
  | @sequence outer tables floor index commands table htable houter ih =>
    obtain ⟨_, tables', htables, hscope, rfl, houter'⟩ := hcomplete.of_sequence
    have hfloor : ¬ tables.length < floor := Nat.not_lt.mpr houter.floor_le
    have hfloor' : ¬ tables'.length < scopes'.floor := Nat.not_lt.mpr houter'.floor_le
    simp only [LabelsApart, walked, List.flatMap_cons] at hapart ⊢
    simp only [LabelScopes.resolve, LabelScopes.search, hfloor, if_false] at hresolve
    simp only [LabelScopes.resolve, htables, LabelScopes.search, hfloor', if_false, get?_collectLabels]
    cases hget : table.get? name with
    | some place =>
      rw [hget] at hresolve
      cases hresolve
      obtain ⟨line, hlabel⟩ := htable name place hget
      have hfirst := firstLabel?_of_nodup (List.Nodup.sublist (List.sublist_append_left _ _) hapart) hlabel
      rw [hfirst, hscope]
      exact ⟨rfl, List.mem_append_left _ (List.mem_filterMap.mpr ⟨_, List.mem_of_getElem? hlabel, rfl⟩)⟩
    | none =>
      rw [hget] at hresolve
      obtain ⟨hfound, hmem⟩ := ih houter' (List.Nodup.sublist (List.sublist_append_right _ _) hapart) hresolve
      -- The label stands further out, so this sequence has no label of that name.
      have hnone : firstLabel? name commands = none := by
        refine Option.eq_none_iff_forall_ne_some.mpr fun place hplace => ?_
        rw [← get?_collectLabels] at hplace
        obtain ⟨line, hlabel⟩ := sound_collectLabels commands name place hplace
        have hhere : name ∈ directLabels commands :=
          List.mem_filterMap.mpr ⟨_, List.mem_of_getElem? hlabel, rfl⟩
        exact (List.nodup_append.mp hapart).2.2 name hhere name hmem rfl
      rw [hnone]
      exact ⟨hfound, List.mem_append_right _ hmem⟩
  | loop hloop _ ih =>
    rw [LabelsApart, hloop.walked_eq] at hapart
    rw [hloop.walked_eq]
    exact ih (hcomplete.of_loop hloop) hapart hresolve
  | call houter _ =>
    rw [LabelScopes.resolve, LabelScopes.search_eq_none name (Nat.le_refl _)] at hresolve
    cases hresolve

end Aligned

end Frame

/-- Where no name of a label is used twice in a script, no two labels in reach have the same name. -/
theorem Course.labelsApart {settings : Settings} {commands : List Command} (c : Course settings commands)
    (hunique : (labelNames commands).Nodup) (n : Nat) : Frame.LabelsApart (c.state n).frames := by
  unfold Frame.LabelsApart
  cases hwalked : Frame.walked (c.state n).frames with
  | nil => exact List.nodup_nil
  | cons walk around =>
    obtain ⟨root, path, hbottom, hpath, _⟩ := (c.nested n).exists_path hwalked
    have hpart : Part commands root := by
      rcases hbottom with ⟨rfl, _⟩ | ⟨inner, scope, place, floor, outer, hframes, _⟩
      · exact .refl _
      · refine (c.within_script n).frames (.sequence scope root place) ?_ root rfl
        show _ ∈ (c.state n).frames
        simp [hframes]
    have henclosing := nodup_enclosing (hunique.sublist hpart.labelNames_sublist) hpath
    rw [List.flatMap_cons, ← List.flatMap_map Prod.fst directLabels]
    exact henclosing.sublist ((directLabels_sublist _).append_right _)

namespace Run

variable {σ : Type} (settings : Settings) (d : Device σ) (commands : List Command) (device : σ)
  (cancelled : Bool)

/-- Until a jump does not find its label, a run that learns labels when they are executed goes the same
way as one that knows them in advance. -/
theorem resolving_relabelled (hunique : (labelNames commands).Nodup) (k : Nat) :
    Relabelled (resolving settings d commands device cancelled .lazy k)
        (resolving settings d commands device cancelled .eager k) ∨
      ∃ line label, .labelNotFound line label ∈
        (resolving settings d commands device cancelled .lazy k).report.errors := by
  induction k with
  | zero =>
    refine .inl ⟨?_, rfl, rfl, rfl, rfl⟩
    exact (Machine.Relabelled.refl ⟨Context.empty, [], .fetch, 0, 0, false, #[], #[]⟩).enter
      (settings.resolving .lazy) .eager commands
  | succ k ih =>
    let learns := course (settings.resolving .lazy) d commands device cancelled
    let knows := course (settings.resolving .eager) d commands device cancelled
    have hgrow := learns.errors_grow k 1
    rcases ih with hsame | ⟨line, label, hmissing⟩
    · have hframes : (knows.state k).frames = (learns.state k).frames := hsame.machine.frames
      have hcomplete := knows.aligned_complete rfl k
      rw [hframes] at hcomplete
      rw [resolving_succ, resolving_succ]
      refine (hsame.step (settings.resolving .lazy) .eager d ?_).imp_right ?_
      · intro _ _ label target _ _ _ hresolve
        exact ((learns.aligned_sound k).resolve_complete hcomplete (learns.labelsApart hunique k) hresolve).1
      · rintro ⟨_, line, _, label, _, _, herrors⟩
        refine ⟨line, label, ?_⟩
        simp [report, Machine.report, herrors]
    · exact .inr ⟨line, label, hgrow.subset hmissing⟩

/-- Where no name of a label is used twice in a script, learning labels when they are executed and
knowing them in advance make no difference to a run, however often it is cancelled and whether or not
it ends, for as long as every jump finds its label: the calls are the same, and so are the report and
the end. -/
theorem lazy_agrees_with_eager (hunique : (labelNames commands).Nodup) (cancelAt : Option Nat) (k : Nat)
    (hfound : ∀ line label, .labelNotFound line label ∉
      (resolving settings (d.logged cancelAt) commands (device, []) cancelled .lazy k).report.errors) :
    let learns := resolving settings (d.logged cancelAt) commands (device, []) cancelled .lazy k
    let knows := resolving settings (d.logged cancelAt) commands (device, []) cancelled .eager k
    knows.status = learns.status ∧ knows.report = learns.report ∧ knows.calls = learns.calls ∧
      knows.elapsed = learns.elapsed := by
  intro learns knows
  rcases resolving_relabelled settings (d.logged cancelAt) commands (device, []) cancelled hunique k with
    hsame | ⟨line, label, hmissing⟩
  · exact ⟨hsame.status, hsame.report, congrArg Prod.snd hsame.device, hsame.elapsed⟩
  · exact absurd hmissing (hfound line label)

/-- A script that jumps back once, out of a branch. -/
def oneMoreTime : List Command :=
  [.leaf 1 (.label "top"), .leaf 2 (.set "n" (.binary "$n" .add "1")),
    .branch 3 "$n < 2" [.leaf 4 (.goto "top")] [], .leaf 6 (.logVariable "n")]

/-- Both ways to learn labels let the script jump, log the variable and complete. -/
theorem oneMoreTime_agrees :
    (labelNames oneMoreTime).Nodup ∧
      let run mode := resolving Settings.default ((Rehearsal.device).logged none) oneMoreTime
        (.plain (.new [] [] false), []) false mode 40
      (run .lazy).status = .finished ∧ (run .lazy).report.errors = [] ∧
      (run .eager).status = .finished ∧ (run .eager).report = (run .lazy).report ∧
      (run .eager).calls = [.tell (.namedValue "n" "2")] := by
  have hunique : (labelNames oneMoreTime).Nodup := by decide
  refine ⟨hunique, ?_⟩
  intro run
  have hfinished : (run .lazy).status = .finished := by decide
  have herrors : (run .lazy).report.errors = [] := by decide
  have hcalls : (run .lazy).calls = [.tell (.namedValue "n" "2")] := by decide
  obtain ⟨hstatus, hreport, hsame, _⟩ := lazy_agrees_with_eager Settings.default Rehearsal.device
    oneMoreTime (.plain (.new [] [] false)) false hunique none 40 (by
      intro line label hmem
      exact absurd (herrors ▸ hmem) List.not_mem_nil)
  exact ⟨hfinished, herrors, hstatus.trans hfinished, hreport, hsame.trans hcalls⟩

end Run

end TouchScript
