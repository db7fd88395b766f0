import TouchScript.Proofs.Recorder.Log

namespace TouchScript

namespace ActionResult

/-- The result that a table of failures has for an action. -/
def lookedUp (failures : Bindings String) (a : Action) : ActionResult :=
  match failures.get? a.name with
  | some message => .failure s!"Command failed: {message}"
  | none => .success

/-- An action is noted as successful exactly if its name is not in the table. -/
theorem lookedUp_eq_success_iff {failures : Bindings String} {a : Action} :
    lookedUp failures a = .success ↔ failures.get? a.name = none := by
  unfold lookedUp
  cases failures.get? a.name <;> simp

end ActionResult

/-- The entry that a recorder with these tables makes of a call. -/
def RecorderCall.entry (images : ImageTable) (failures : Bindings String) (call : RecorderCall) : Entry :=
  ⟨call.action images, .lookedUp failures (call.action images)⟩

namespace Recorder

variable (r : Recorder)

/-- What a recorder notes of an action is what the table has for its name. -/
theorem record_eq_note (a : Action) : (r.record a).2 = r.note ⟨a, .lookedUp r.failures a⟩ := by
  unfold ActionResult.lookedUp
  cases hfailure : r.failures.get? a.name with
  | none => rw [r.record_of_noFailure hfailure]
  | some message => rw [r.record_of_failure hfailure]

/-- Which entry a call leaves depends on the tables of the recorder only. -/
theorem receive_eq_note (call : RecorderCall) :
    (r.receive call).2 = r.note (call.entry r.images r.failures) := by
  cases call with
  | tell told => exact r.record_eq_note told.action
  | gesture g | search path =>
    unfold RecorderCall.entry ActionResult.lookedUp
    cases hfailure : r.failures.get? (RecorderCall.action r.images _).name with
    | none => rw [r.receive_of_noFailure hfailure]
    | some message => rw [r.receive_of_failure rfl hfailure]

end Recorder

namespace Recording

variable (images : ImageTable) (failures : Bindings String) (uses : List RecorderUse)

/-- The notes of a recorder in use are its calls, each with the result that the table of failures has
for it. -/
theorem entries_of :
    (of images failures uses).recorder.entries.toList =
        (of images failures uses).recent.map (fun x => x.call.entry images failures) ∧
      (of images failures uses).recorder.fileEntries =
        (of images failures uses).all.map (fun x => x.call.entry images failures) := by
  induction uses using List.reverseRecOn with
  | nil => exact ⟨rfl, rfl⟩
  | append_singleton uses use ih =>
    obtain ⟨hentries, hfile⟩ := ih
    have hkept := kept_of images failures uses
    obtain ⟨file, hsome, _⟩ := hkept.file
    have hfileEntries : (of images failures uses).recorder.fileEntries = file.toList := by
      rw [Recorder.fileEntries, hsome]
      rfl
    rw [hfileEntries] at hfile
    have hlast : of images failures (uses ++ [use]) = (of images failures uses).use use := by
      rw [of, List.foldl_append]
      rfl
    rw [hlast]
    cases use with
    | make call =>
      have hnote := (of images failures uses).recorder.receive_eq_note call
      rw [hkept.images_eq, hkept.failures_eq] at hnote
      simp only [Recording.use, hnote, Recorder.note, Recorder.fileEntries, hsome]
      simp [hentries, hfile]
    | clear =>
      exact ⟨rfl, hfileEntries.trans hfile⟩

variable {images failures uses}

/-- Each call since the last clearing has its entry in its place. -/
theorem getElem?_entries {n : Nat} {x : Exchange} (h : (of images failures uses).recent[n]? = some x) :
    (of images failures uses).recorder.entries[n]? = some (x.call.entry images failures) := by
  rw [← Array.getElem?_toList, (entries_of images failures uses).1, List.getElem?_map, h, Option.map_some]

/-- Each call that was ever made has its line in its place. -/
theorem getElem?_fileLines (stamps : Nat → Stamp) {n : Nat} {x : Exchange}
    (h : (of images failures uses).all[n]? = some x) :
    ((of images failures uses).recorder.fileLines stamps)[n]? =
      some (Record.line ⟨stamps n, x.call.entry images failures⟩) := by
  rw [Recorder.fileLines, (entries_of images failures uses).2, List.getElem?_map, List.getElem?_zipIdx,
    List.getElem?_map, h]
  simp

/-- The reply to a log call is always the same, whatever was noted. -/
theorem reply_of_told {x : Exchange} (h : x ∈ (of images failures uses).all) {told : LogCall Duration}
    (htold : x.call = .tell told) : x.reply = .done := by
  induction uses using List.reverseRecOn with
  | nil => cases h
  | append_singleton uses use ih =>
    rw [of, List.foldl_append] at h
    cases use with
    | clear => exact ih h
    | make call =>
      rcases List.mem_append.mp h with hbefore | hlast
      · exact ih hbefore
      · cases List.mem_singleton.mp hlast
        cases htold
        rfl

end Recording

/-- What a recorder in use has noted of the log calls it has received. -/
structure Recording.LogNotes (images : ImageTable) (failures : Bindings String) (uses : List RecorderUse)
    (stamps : Nat → Stamp) (s : Recording) : Prop where
  all : s.all.map Exchange.call = uses.filterMap RecorderUse.call?
  recent : s.recent.map Exchange.call =
    (uses.rtakeWhile fun use => use.call?.isSome).filterMap RecorderUse.call?
  /-- The caller never hears of a failure. -/
  done : ∀ x ∈ s.all, ∀ told, x.call = .tell told → x.reply = .done
  entry : ∀ (n : Nat) x told, s.recent[n]? = some x → x.call = .tell told → s.recorder.entries[n]? =
    some ⟨told.action, .lookedUp failures told.action⟩
  line : ∀ (n : Nat) x told, s.all[n]? = some x → x.call = .tell told → (s.recorder.fileLines stamps)[n]? =
    some (Record.line ⟨stamps n, told.action, .lookedUp failures told.action⟩)

/-- Log calls do not ignore the table of failures: one whose name is in it is noted as failed, among the
entries and in the record file, and all others are noted as successful. -/
theorem Recording.log_results (images : ImageTable) (failures : Bindings String) (uses : List RecorderUse)
    (stamps : Nat → Stamp) :
    (of images failures uses).LogNotes images failures uses stamps ∧
      (∀ told : LogCall Duration, ActionResult.lookedUp failures told.action = .success ↔
        failures.get? told.action.name = none) ∧
      ∀ (told : LogCall Duration) message, failures.get? told.action.name = some message →
        ActionResult.lookedUp failures told.action =
          .failure s!"Command failed: {message}" := by
  have hkept := kept_of images failures uses
  refine ⟨⟨hkept.all, hkept.recent, fun x hx told => reply_of_told hx, fun n x told hn htold => ?_,
    fun n x told hn htold => ?_⟩, fun told => ActionResult.lookedUp_eq_success_iff,
    fun told message h => ?_⟩
  · rw [getElem?_entries hn, RecorderCall.entry, htold]
    rfl
  · rw [getElem?_fileLines stamps hn, RecorderCall.entry, htold]
    rfl
  · simp only [ActionResult.lookedUp, h]

/-- A message and, after a clearing, an overlay, of which only the overlay is in the table. -/
theorem Recording.overlay_noted_as_failed :
    let duration : Millis := ⟨5, by decide, by decide⟩
    let s := of [] [("overlay", "off")]
      [.make (.tell (.message "a")), .clear, .make (.tell (.overlay "b" (.ofMillis duration)))]
    s.recorder.entries[0]? = some ⟨.overlay "b" duration, .failure "Command failed: off"⟩ ∧
      ∀ x ∈ s.all, x.reply = .done := by
  intro duration s
  obtain ⟨hnotes, _⟩ := log_results [] [("overlay", "off")]
    [.make (.tell (.message "a")), .clear, .make (.tell (.overlay "b" (.ofMillis duration)))]
    fun _ => ⟨⟨7⟩, .ofEpoch 1000000⟩
  refine ⟨hnotes.entry 0 ⟨.tell (.overlay "b" (.ofMillis duration)), .done⟩ _ rfl rfl, ?_⟩
  exact List.forall_mem_cons.mpr
    ⟨hnotes.done _ (.head _) _ rfl, List.forall_mem_singleton.mpr (hnotes.done _ (.tail _ (.head _)) _ rfl)⟩

/-- A message that is noted as failed, among the entries and in the record file, since the table has a
failure for messages. -/
theorem Recording.message_noted_as_failed :
    let s := of [] [("log_message", "disk full")] [.make (.tell (.message "hello"))]
    let entry : Entry := ⟨.message "hello", .failure "Command failed: disk full"⟩
    s.all = [⟨.tell (.message "hello"), .done⟩] ∧ s.recorder.entries = #[entry] ∧
      s.recorder.fileEntries = [entry] ∧ entry.result ≠ .success := by
  refine ⟨rfl, rfl, rfl, ?_⟩
  simp

end TouchScript
