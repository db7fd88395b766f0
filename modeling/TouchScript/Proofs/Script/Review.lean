import TouchScript.Proofs.Labels.Lexical
import TouchScript.Proofs.Machine.Parts
import TouchScript.Proofs.Script.Accounting
import TouchScript.Script.Warning

namespace TouchScript

/-- A place in a script: a command, and what stands before and after it in its sequence. What is to
be warned of there depends on this only, and not on a walk. -/
structure Site where
  earlier : List Command
  command : Command
  later : List Command

namespace Site

/-- The sequence of a place. -/
def sequence (site : Site) : List Command :=
  site.earlier ++ site.command :: site.later

/-- Which command of its sequence stands at a place. -/
def index (site : Site) : Nat :=
  site.earlier.length

end Site

namespace Command

mutual

/-- The place of a command, and then the places in its blocks in the order in which they are written. -/
def sites (earlier later : List Command) : Command → List Site
  | .leaf line instruction => [⟨earlier, .leaf line instruction, later⟩]
  | .branch line condition thenBlock elseBlock =>
    ⟨earlier, .branch line condition thenBlock elseBlock, later⟩ ::
      (sitesOf [] thenBlock ++ sitesOf [] elseBlock)
  | .loop line condition body => ⟨earlier, .loop line condition body, later⟩ :: sitesOf [] body
  | .counted line count counter body =>
    ⟨earlier, .counted line count counter body, later⟩ :: sitesOf [] body
  | .function line name body => ⟨earlier, .function line name body, later⟩ :: sitesOf [] body

/-- The places in the rest of a sequence, of which `earlier` stands before. -/
def sitesOf (earlier : List Command) : List Command → List Site
  | [] => []
  | command :: rest => sites earlier rest command ++ sitesOf (earlier ++ [command]) rest

end

/-- The sequences of a script: the script itself and the blocks and bodies in it. -/
def sequences (commands : List Command) : List (List Command) :=
  commands :: (allOf commands).flatMap bodies

/-- The place of a command comes first, then those in its blocks. -/
theorem sites_eq (earlier later : List Command) (command : Command) :
    command.sites earlier later = ⟨earlier, command, later⟩ :: command.bodies.flatMap (sitesOf []) := by
  cases command <;> simp [sites, bodies]

end Command

/-- A point off the screen is warned of. -/
def Point.warned (p : Point) : List Concern :=
  if p.x.val < 0 ∨ p.y.val < 0 then [.offScreen p] else []

/-- A duration that is not positive is warned of. -/
def Number.warned (keyword : String) (duration : Number) : List Concern :=
  if duration.val ≤ 0 then [.shortDuration keyword duration] else []

/-- A distance that is not positive is warned of. -/
def Coordinate.warned (keyword : String) (distance : Coordinate) : List Concern :=
  if distance.val ≤ 0 then [.shortDistance keyword distance] else []

/-- What is warned of at each kind of gesture. -/
def Gesture.warned : Gesture Number → List Concern
  | .tap p | .threeFingerTap p => p.warned
  | .longPress p duration => p.warned ++ Number.warned "longpress" duration
  | .swipe p q duration => p.warned ++ q.warned ++ Number.warned "swipe" duration
  | .zoom p distance duration .inward =>
    p.warned ++ Coordinate.warned "zoomin" distance ++ Number.warned "zoomin" duration
  | .zoom p distance duration .outward =>
    p.warned ++ Coordinate.warned "zoomout" distance ++ Number.warned "zoomout" duration
  | .multiTap points => points.flatMap Point.warned
  | .path points duration => points.flatMap Point.warned ++ Number.warned "swipepath" duration

namespace Site

/-- What is warned of at a place. -/
def concerns (site : Site) : List Concern :=
  match site.command with
  | .leaf _ (.gesture g) => g.warned
  | .leaf _ (.delay ms) => if ms.val < 0 then [.negativeDelay ms] else []
  | .leaf _ (.label name) =>
    if ∃ other ∈ site.earlier, other.label? = some name then [.repeatedLabel name] else []
  | .counted _ count _ _ => if count.val = 0 then [.neverRuns] else []
  | _ => []

/-- The warnings of a place carry the line of its command. -/
def warnings (site : Site) : List Warning :=
  site.concerns.map (Warning.mk site.command.line)

end Site

/-- Every kind of gesture is warned of as said. -/
theorem Gesture.concerns_eq (g : Gesture Number) : g.concerns = g.warned := by
  have hpoints (points : List Point) :
      (points.filter Point.isOffScreen).map Concern.offScreen = points.flatMap Point.warned := by
    induction points with
    | nil => rfl
    | cons p rest ih =>
      rw [List.flatMap_cons, ← ih, List.filter_cons, Point.warned]
      by_cases hoff : p.x.val < 0 ∨ p.y.val < 0 <;> simp [Point.isOffScreen, hoff]
  have hduration (keyword : String) (d : Number) :
      ([d].filter fun d => decide (d.val ≤ 0)).map (Concern.shortDuration keyword) =
        Number.warned keyword d := by
    by_cases hshort : d.val ≤ 0 <;> simp [Number.warned, hshort]
  have hdistance (keyword : String) (d : Coordinate) :
      ([d].filter fun d => decide (d.val ≤ 0)).map (Concern.shortDistance keyword) =
        Coordinate.warned keyword d := by
    by_cases hshort : d.val ≤ 0 <;> simp [Coordinate.warned, hshort]
  unfold concerns
  rw [hpoints]
  cases g with
  | zoom p distance duration direction =>
    cases direction <;>
      simp [warned, points, distance?, duration?, keyword, hduration, hdistance]
  | _ => simp [warned, points, distance?, duration?, keyword, hduration]

namespace Command

/-- The labels that have been seen are those of the commands before. -/
def Seen (seen : List String) (earlier : List Command) : Prop :=
  ∀ name, name ∈ seen ↔ ∃ other ∈ earlier, other.label? = some name

/-- No label is seen before the first command. -/
theorem Seen.nil : Seen [] [] := by
  simp [Seen]

/-- Going past a command adds its label to those that have been seen. -/
theorem Seen.concat {seen : List String} {earlier : List Command} (hseen : Seen seen earlier)
    (command : Command) : Seen (command.label?.toList ++ seen) (earlier ++ [command]) := by
  intro name
  simp [hseen name, or_and_right, exists_or, or_comm]

/-- The concerns of a command are those of its place, if the labels before it have been seen. -/
theorem concerns_eq {seen : List String} {earlier : List Command} (hseen : Seen seen earlier)
    (command : Command) (later : List Command) : command.concerns seen = Site.concerns ⟨earlier, command, later⟩ := by
  cases command with
  | leaf line instruction =>
    cases instruction with
    | gesture g => exact g.concerns_eq
    | label name => simp only [concerns, Site.concerns, hseen name]
    | _ => rfl
  | _ => rfl

mutual

/-- The places of a tree are those of its commands, each command once. -/
theorem map_command_sites (earlier later : List Command) : ∀ command : Command,
    (command.sites earlier later).map Site.command = command.all
  | .leaf _ _ => rfl
  | .branch _ _ thenBlock elseBlock => by
    simp only [sites, all, List.map_cons, List.map_append, map_command_sitesOf _ thenBlock,
      map_command_sitesOf _ elseBlock]
  | .loop _ _ body | .counted _ _ _ body | .function _ _ body => by
    simp only [sites, all, List.map_cons, map_command_sitesOf _ body]

/-- The places in a sequence are those of all its commands, in their order. -/
theorem map_command_sitesOf (earlier : List Command) : ∀ commands : List Command,
    (sitesOf earlier commands).map Site.command = allOf commands
  | [] => rfl
  | command :: rest => by
    simp only [sitesOf, allOf, List.map_append, map_command_sites earlier rest command,
      map_command_sitesOf _ rest]

end

/-- The places in a command are its own and those of the sequences in it, if this is so for its blocks. -/
theorem mem_sites_of_bodies {site : Site} {command : Command} (earlier later : List Command)
    (hbodies : ∀ block ∈ command.bodies, site ∈ sitesOf [] block ↔
      site.sequence = block ∨ site.sequence ∈ (allOf block).flatMap bodies) :
    site ∈ command.sites earlier later ↔
      site = ⟨earlier, command, later⟩ ∨ site.sequence ∈ command.all.flatMap bodies := by
  rw [sites_eq, all_eq, List.mem_cons, List.flatMap_cons, List.mem_append, List.flatMap_assoc,
    List.mem_flatMap, List.mem_flatMap]
  refine or_congr_right ⟨?_, ?_⟩
  · rintro ⟨block, hblock, hsite⟩
    rcases (hbodies block hblock).mp hsite with rfl | hinside
    · exact .inl hblock
    · exact .inr ⟨block, hblock, hinside⟩
  · rintro (hblock | ⟨block, hblock, hinside⟩)
    · exact ⟨_, hblock, (hbodies _ hblock).mpr (.inl rfl)⟩
    · exact ⟨block, hblock, (hbodies block hblock).mpr (.inr hinside)⟩

/-- The places in the rest of a sequence are those after the commands before it, and those of the
sequences in it. -/
def Remains (site : Site) (earlier commands : List Command) : Prop :=
  (∃ more, site.earlier = earlier ++ more ∧ more ++ site.command :: site.later = commands) ∨
    site.sequence ∈ (allOf commands).flatMap bodies

/-- The places in a whole sequence are those of the sequence itself and of the sequences in its
commands. -/
theorem remains_nil_iff {site : Site} {commands : List Command} : Remains site [] commands ↔
    site.sequence = commands ∨ site.sequence ∈ (allOf commands).flatMap bodies := by
  refine or_congr_left ?_
  simp [Site.sequence]

/-- They are the place of the first command, those in its blocks, and those in the rest of the
sequence. -/
theorem remains_cons_iff {site : Site} {earlier rest : List Command} {command : Command} :
    Remains site earlier (command :: rest) ↔
      (site = ⟨earlier, command, rest⟩ ∨ site.sequence ∈ command.all.flatMap bodies) ∨
        Remains site (earlier ++ [command]) rest := by
  obtain ⟨before, here, after⟩ := site
  have hplace : (∃ more, before = earlier ++ more ∧ more ++ here :: after = command :: rest) ↔
      Site.mk before here after = ⟨earlier, command, rest⟩ ∨
        ∃ more, before = earlier ++ [command] ++ more ∧ more ++ here :: after = rest := by
    constructor
    · rintro ⟨more, rfl, hmore⟩
      cases more with
      | nil =>
        cases hmore
        exact .inl (by rw [List.append_nil])
      | cons first more =>
        cases hmore
        exact .inr ⟨more, by simp, rfl⟩
    · rintro (hsame | ⟨more, rfl, rfl⟩)
      · cases hsame
        exact ⟨[], by simp, rfl⟩
      · exact ⟨command :: more, by simp, rfl⟩
  simp only [Remains, allOf, List.flatMap_append, List.mem_append, hplace]
  exact or_or_or_comm

mutual

/-- A command has its own place and those of the sequences in its blocks. -/
theorem mem_sites (site : Site) (earlier later : List Command) : ∀ command : Command,
    site ∈ command.sites earlier later ↔
      site = ⟨earlier, command, later⟩ ∨ site.sequence ∈ command.all.flatMap bodies
  | .leaf _ _ => mem_sites_of_bodies earlier later (by simp [bodies])
  | .branch _ _ thenBlock elseBlock => mem_sites_of_bodies earlier later <| by
    have hthen := (mem_sitesOf site [] thenBlock).trans remains_nil_iff
    have helse := (mem_sitesOf site [] elseBlock).trans remains_nil_iff
    simpa [bodies] using And.intro hthen helse
  | .loop _ _ body | .counted _ _ _ body | .function _ _ body => mem_sites_of_bodies earlier later <| by
    have hbody := (mem_sitesOf site [] body).trans remains_nil_iff
    simpa [bodies] using hbody

/-- The rest of a sequence has the places that remain. -/
theorem mem_sitesOf (site : Site) (earlier : List Command) : ∀ commands : List Command,
    site ∈ sitesOf earlier commands ↔ Remains site earlier commands
  | [] => by simp [sitesOf, allOf, Remains]
  | command :: rest => by
    rw [sitesOf, List.mem_append, mem_sites site earlier rest command, mem_sitesOf site _ rest,
      remains_cons_iff]

end

/-- The places of a script are exactly those in its sequences. -/
theorem mem_sitesOf_script (commands : List Command) (site : Site) :
    site ∈ sitesOf [] commands ↔ site.sequence ∈ sequences commands := by
  rw [mem_sitesOf, remains_nil_iff, sequences, List.mem_cons]

/-- A command is warned of before what stands in its blocks. -/
theorem warnings_eq {seen : List String} {earlier : List Command} (hseen : Seen seen earlier)
    (later : List Command) (command : Command) : command.warnings seen =
      Site.warnings ⟨earlier, command, later⟩ ++ command.bodies.flatMap (warningsOf []) := by
  cases command with
  | leaf line instruction =>
    rw [warnings, concerns_eq hseen _ later]
    exact (List.append_nil _).symm
  | branch line condition thenBlock elseBlock =>
    rw [warnings, bodies, List.flatMap_cons, List.flatMap_singleton]
    rfl
  | loop line condition body | function line name body =>
    rw [warnings, bodies, List.flatMap_singleton]
    rfl
  | counted line count counter body =>
    rw [warnings, bodies, List.flatMap_singleton, concerns_eq hseen _ later]
    rfl

mutual

/-- The warnings of a command are those of its place and of the places in its blocks, if the labels
seen are those of the commands before. -/
theorem warnings_eq_flatMap {seen : List String} {earlier : List Command} (hseen : Seen seen earlier)
    (later : List Command) : ∀ command : Command,
      command.warnings seen = (command.sites earlier later).flatMap Site.warnings
  | .leaf _ _ => by
    rw [warnings_eq hseen later, sites_eq, List.flatMap_cons]
    rfl
  | .branch _ _ thenBlock elseBlock => by
    rw [warnings_eq hseen later, sites_eq, List.flatMap_cons]
    simp only [bodies, List.flatMap_cons, List.flatMap_nil, List.append_nil, List.flatMap_append,
      warningsOf_eq_flatMap Seen.nil thenBlock, warningsOf_eq_flatMap Seen.nil elseBlock]
  | .loop _ _ body | .counted _ _ _ body | .function _ _ body => by
    rw [warnings_eq hseen later, sites_eq, List.flatMap_cons]
    simp only [bodies, List.flatMap_cons, List.flatMap_nil, List.append_nil,
      warningsOf_eq_flatMap Seen.nil body]

/-- So are the warnings of a sequence. -/
theorem warningsOf_eq_flatMap {seen : List String} {earlier : List Command} (hseen : Seen seen earlier) :
    ∀ commands : List Command, warningsOf seen commands = (sitesOf earlier commands).flatMap Site.warnings
  | [] => rfl
  | command :: rest => by
    rw [warningsOf, sitesOf, List.flatMap_append, warnings_eq_flatMap hseen rest command,
      warningsOf_eq_flatMap (hseen.concat command) rest]

end

end Command

namespace Site

variable {site : Site} {name : String}

/-- Every index of a sequence is a place. -/
theorem exists_site {commands : List Command} {index : Nat} {command : Command}
    (hcommand : commands[index]? = some command) :
    ∃ site : Site, site.sequence = commands ∧ site.index = index ∧ site.command = command := by
  obtain ⟨hbound, rfl⟩ := List.getElem?_eq_some_iff.mp hcommand
  refine ⟨⟨commands.take index, commands[index], commands.drop (index + 1)⟩, ?_, ?_, rfl⟩
  · simp [sequence]
  · simp only [Site.index, List.length_take]
    omega

/-- A label is the first of its name in its sequence if none of this name stands before it. -/
theorem firstLabel?_sequence (hlabel : site.command.label? = some name) :
    ∃ first, firstLabel? name site.sequence = some first ∧
      (first = site.index ↔ ¬ ∃ other ∈ site.earlier, other.label? = some name) := by
  obtain ⟨earlier, command, later⟩ := site
  induction earlier with
  | nil => exact ⟨0, by simpa [sequence, firstLabel?_cons] using hlabel, by simp [index]⟩
  | cons first rest ih =>
    by_cases hfirst : first.label? = some name
    · exact ⟨0, by simp [sequence, firstLabel?_cons, hfirst], by simp [index, hfirst]⟩
    · obtain ⟨place, hplace, hiff⟩ := ih hlabel
      refine ⟨place + 1, ?_, ?_⟩
      · rw [sequence, List.cons_append, firstLabel?_cons, if_neg hfirst]
        exact congrArg (Option.map (· + 1)) hplace
      · simpa [index, hfirst] using hiff

/-- At a label nothing is warned of but the label itself, if its name stands before it. -/
theorem warnings_of_label (hlabel : site.command.label? = some name) : site.warnings =
    if ∃ other ∈ site.earlier, other.label? = some name then
      [⟨site.command.line, .repeatedLabel name⟩]
    else [] := by
  obtain ⟨earlier, command, later⟩ := site
  unfold Command.label? at hlabel
  split at hlabel
  next line other hcommand =>
    cases hlabel
    cases hcommand
    by_cases hrepeated : ∃ other ∈ earlier, other.label? = some name <;>
      simp [warnings, concerns, hrepeated]
  next => cases hlabel

/-- A label is warned of exactly if the table of its sequence leads somewhere else. -/
theorem repeated_iff (hlabel : site.command.label? = some name) :
    (⟨site.command.line, .repeatedLabel name⟩ ∈ site.warnings ↔
        (collectLabels site.sequence).get? name ≠ some site.index) ∧
      (site.warnings = [] ↔ (collectLabels site.sequence).get? name = some site.index) := by
  obtain ⟨first, hfirst, hiff⟩ := firstLabel?_sequence hlabel
  rw [warnings_of_label hlabel, get?_collectLabels, hfirst, Ne, Option.some.injEq, hiff]
  by_cases hrepeated : ∃ other ∈ site.earlier, other.label? = some name <;> simp [hrepeated]

end Site

namespace Course

variable {settings : Settings} {commands : List Command} (c : Course settings commands)

/-- Where labels are known from the start, a jump from a sequence reaches the labels of the sequence that
are not warned of. -/
theorem resolve_iff_unwarned (heager : settings.labelResolution = .eager) {n scope place : Nat} {site : Site}
    {outer : List Frame} {name : String}
    (hframes : (c.state n).frames = .sequence scope site.sequence place :: outer)
    (hlabel : site.command.label? = some name) :
    (c.state n).context.labels.resolve name = some ⟨scope, site.index⟩ ↔ site.warnings = [] := by
  have haligned := c.aligned_complete heager n
  rw [hframes] at haligned
  obtain ⟨table, tables, htables, rfl, hfits, houter⟩ := haligned.of_sequence
  have hfloor : ¬ tables.length < (c.state n).context.labels.floor := Nat.not_lt.mpr houter.floor_le
  obtain ⟨first, hfirst, _⟩ := Site.firstLabel?_sequence hlabel
  rw [(Site.repeated_iff hlabel).2, get?_collectLabels, hfirst]
  have hget : table.get? name = some first := by rw [hfits, get?_collectLabels, hfirst]
  simp [LabelScopes.resolve, htables, LabelScopes.search, hfloor, hget]

/-- No jump ever reaches a label that is warned of. -/
theorem unwarned_of_resolve (heager : settings.labelResolution = .eager) {n : Nat} {name : String}
    {target : LabelTarget} (hresolve : (c.state n).context.labels.resolve name = some target) :
    ∃ (site : Site) (inner outer : List Frame) (place : Nat),
      (c.state n).frames = inner ++ .sequence target.scope site.sequence place :: outer ∧
        site.index = target.index ∧ site.command.label? = some name ∧ site.warnings = [] := by
  obtain ⟨_, _, inner, owner, place, outer, table, hframes, _, hfits, hget⟩ :=
    LabelScopes.resolve_aligned (c.aligned_complete heager n) hresolve
  rw [hfits] at hget
  obtain ⟨line, hcommand⟩ := sound_collectLabels owner name target.index hget
  obtain ⟨site, rfl, hindex, hsite⟩ := Site.exists_site hcommand
  have hlabel : site.command.label? = some name := by rw [hsite]; rfl
  refine ⟨site, inner, outer, place, hframes, hindex, hlabel, ?_⟩
  rw [(Site.repeated_iff hlabel).2, hindex, hget]

end Course

/-- The warnings of a script are those of its places. -/
structure Reviewed (commands : List Command) : Prop where
  /-- Every command is visited once, in the order in which they are written. -/
  visits : (Command.sitesOf [] commands).map Site.command = Command.allOf commands
  /-- Every place of every sequence is visited, as a place of that sequence. -/
  places : ∀ site, site ∈ Command.sitesOf [] commands ↔ site.sequence ∈ Command.sequences commands
  /-- The warnings are those of the places, in the same order. -/
  warnings : warnings commands = (Command.sitesOf [] commands).flatMap Site.warnings
  /-- A label is warned of exactly if the table of its sequence leads somewhere else. -/
  repeated : ∀ (site : Site) (name : String), site.command.label? = some name →
    (⟨site.command.line, .repeatedLabel name⟩ ∈ site.warnings ↔
      (collectLabels site.sequence).get? name ≠ some site.index)
  /-- Where labels are known from the start, the labels without a warning are in reach from their
  sequence. -/
  reaches : ∀ (settings : Settings), settings.labelResolution = .eager →
    ∀ (c : Course settings commands) (n scope place : Nat) (site : Site) (outer : List Frame) (name : String),
      (c.state n).frames = .sequence scope site.sequence place :: outer →
        site.command.label? = some name →
          ((c.state n).context.labels.resolve name = some ⟨scope, site.index⟩ ↔ site.warnings = [])
  /-- There, no other labels are in reach from anywhere. -/
  only : ∀ (settings : Settings), settings.labelResolution = .eager →
    ∀ (c : Course settings commands) (n : Nat) (name : String) (target : LabelTarget),
      (c.state n).context.labels.resolve name = some target →
        ∃ (site : Site) (inner outer : List Frame) (place : Nat),
          (c.state n).frames = inner ++ .sequence target.scope site.sequence place :: outer ∧
            site.index = target.index ∧ site.command.label? = some name ∧ site.warnings = []

/-- If the lines of the commands increase, the warnings come in the order of the lines. -/
theorem pairwise_warnings {commands : List Command}
    (hordered : ((Command.allOf commands).map Command.line).Pairwise (· < ·)) :
    ((warnings commands).map Warning.line).Pairwise (· ≤ ·) := by
  rw [← Command.map_command_sitesOf [], List.map_map, List.pairwise_map] at hordered
  rw [warnings, Command.warningsOf_eq_flatMap Command.Seen.nil, List.pairwise_map, List.pairwise_flatMap]
  have hline (site : Site) : ∀ w ∈ site.warnings, w.line = site.command.line := by
    intro w hw
    obtain ⟨concern, _, rfl⟩ := List.mem_map.mp hw
    rfl
  refine ⟨fun site _ => ?_, hordered.imp fun hlt w hw later hlater => ?_⟩
  · exact List.pairwise_of_forall_mem_list fun w hw later hlater =>
      Nat.le_of_eq ((hline site w hw).trans (hline site later hlater).symm)
  · rw [hline _ w hw, hline _ later hlater]
    exact Nat.le_of_lt hlt

/-- The warnings of every script are those of its places, and those of a script that has been read keep
the order of the lines. -/
theorem warnings_reviewed :
    (∀ commands : List Command, Reviewed commands) ∧
      ∀ (strict : Bool) (source : String),
        ((warnings (Script.parse strict source).commands).map Warning.line).Pairwise (· ≤ ·) := by
  refine ⟨fun commands => ?_, fun strict source => ?_⟩
  · exact
      { visits := Command.map_command_sitesOf [] commands
        places := Command.mem_sitesOf_script commands
        warnings := Command.warningsOf_eq_flatMap Command.Seen.nil commands
        repeated := fun _ _ hlabel => (Site.repeated_iff hlabel).1
        reaches := fun _ heager c _ _ _ _ _ _ hframes hlabel => c.resolve_iff_unwarned heager hframes hlabel
        only := fun _ heager c _ _ _ hresolve => c.unwarned_of_resolve heager hresolve }
  · exact pairwise_warnings (Script.pairwise_line_allOf strict source)

/-- A script with a label that is repeated, and once more in a loop that never runs. -/
def doubledLabel : List Command :=
  [.leaf 1 (.label "a"), .leaf 2 (.label "a"), .loop 3 "0" [.leaf 4 (.label "a")]]

/-- The second label is warned of and a jump does not reach it; the other two are first in their
sequences. -/
theorem doubledLabel_reviewed :
    let course :=
      Run.course Settings.default Rehearsal.device doubledLabel (.plain (.new [] [] false)) false
    warnings doubledLabel = [⟨2, .repeatedLabel "a"⟩] ∧
      (collectLabels doubledLabel).get? "a" ≠ some 1 ∧
      (course.state 0).context.labels.resolve "a" = some ⟨0, 0⟩ := by
  intro course
  have hreviewed := warnings_reviewed.1 doubledLabel
  have hwarnings : warnings doubledLabel = [⟨2, .repeatedLabel "a"⟩] := by decide
  have hrepeated := hreviewed.repeated
    ⟨[.leaf 1 (.label "a")], .leaf 2 (.label "a"), [.loop 3 "0" [.leaf 4 (.label "a")]]⟩ "a" rfl
  have hreaches := hreviewed.reaches Settings.default rfl course 0 0 0
    ⟨[], .leaf 1 (.label "a"), [.leaf 2 (.label "a"), .loop 3 "0" [.leaf 4 (.label "a")]]⟩ [] "a" rfl rfl
  exact ⟨hwarnings, hrepeated.mp (by decide), hreaches.mpr (by decide)⟩

end TouchScript
