import Mathlib.Data.List.DropRight
import Mathlib.Data.List.Forall2
import TouchScript.Proofs.Machine.Gesture
import TouchScript.Proofs.Recorder.Lines
import TouchScript.Run.Rehearsal

namespace TouchScript

namespace Duration

/-- The length of a duration in nanoseconds. -/
def length (d : Duration) : Int :=
  d.seconds.val * 1000000000 + d.nanoseconds.val

/-- What a record keeps of a duration: the whole milliseconds that fit into it, of which only the lowest
64 bits are written down. -/
def KeptAs (d : Duration) (kept : Millis) : Prop :=
  ∃ whole : Int, whole * 1000000 ≤ d.length ∧ d.length < (whole + 1) * 1000000 ∧
    kept.val = whole % 18446744073709551616

/-- Of every duration there is something to keep, and it is what a recorder writes down. -/
theorem keptAs_toMillis (d : Duration) : d.KeptAs d.toMillis := by
  have hlo := d.nanoseconds.lo_le
  have hhi := d.nanoseconds.le_hi
  refine ⟨d.seconds.val * 1000 + d.nanoseconds.val / 1000000, ?_, ?_, rfl⟩
  · rw [length]
    omega
  · rw [length]
    omega

/-- A duration of whole milliseconds is kept as it is, if their number fits into 64 bits. -/
theorem keptAs_iff_of_length {d : Duration} {ms : Millis} (hlength : d.length = ms.val * 1000000)
    (kept : Millis) : d.KeptAs kept ↔ kept = ms := by
  have hlo := ms.lo_le
  have hhi := ms.le_hi
  constructor
  · rintro ⟨whole, hlow, hhigh, hkept⟩
    have hwhole : whole = ms.val := by omega
    apply Ranged.ext
    rw [hkept, hwhole]
    omega
  · rintro rfl
    exact ⟨kept.val, by omega, by omega, by omega⟩

/-- A millisecond and a half is kept as one millisecond. -/
example : toMillis ⟨⟨0, by decide, by decide⟩, ⟨1500000, by decide, by decide⟩⟩ =
    ⟨1, by decide, by decide⟩ := rfl

end Duration

/-- A call to a recorder. Its durations are those of its caller. -/
inductive RecorderCall where
  | gesture (g : Gesture Duration)
  | search (path : String)
  | tell (call : LogCall Duration)
deriving DecidableEq

/-- The reply to a call. -/
inductive CallReply where
  | done
  | found (m : ImageMatch)
  | refused (e : DeviceError)
deriving DecidableEq

/-- A call together with the reply to it. -/
structure Exchange where
  call : RecorderCall
  reply : CallReply
deriving DecidableEq

/-- What can be done with a recorder: making a call, or clearing it. -/
inductive RecorderUse where
  | make (call : RecorderCall)
  | clear
deriving DecidableEq

def RecorderUse.call? : RecorderUse → Option RecorderCall
  | .make call => some call
  | .clear => none

namespace RecorderCall

/-- An action carries the arguments of a call: all of them unchanged, except that a duration is carried as
what a record keeps of it. A search is carried with the answer that the table of images has for it. -/
inductive CarriedBy (images : ImageTable) : RecorderCall → Action → Prop where
  | gesture {g : Gesture Duration} {g' : Gesture Millis} (h : g.Alike Duration.KeptAs g') :
      CarriedBy images (.gesture g) (.gesture g')
  | search (path : String) : CarriedBy images (.search path)
      (.find path ((images.get? path).getD ImageMatch.notFound))
  | message (text : String) : CarriedBy images (.tell (.message text)) (.message text)
  | namedValue (name value : String) : CarriedBy images (.tell (.namedValue name value))
      (.namedValue name value)
  | overlay (text : String) {d : Duration} {kept : Millis} (h : d.KeptAs kept) :
      CarriedBy images (.tell (.overlay text d)) (.overlay text kept)

/-- The action that a call is noted as. -/
def action (images : ImageTable) : RecorderCall → Action
  | .gesture g => .gesture (g.map Duration.toMillis)
  | .search path => .find path ((images.get? path).getD ImageMatch.notFound)
  | .tell call => call.action

/-- The action that a call is noted as carries its arguments. -/
theorem carriedBy_action (images : ImageTable) (call : RecorderCall) :
    call.CarriedBy images (call.action images) := by
  cases call with
  | gesture g => exact .gesture (g.alike_map Duration.keptAs_toMillis)
  | search path => exact .search path
  | tell told =>
    cases told with
    | message text => exact .message text
    | namedValue name value => exact .namedValue name value
    | overlay text d => exact .overlay text d.keptAs_toMillis

def gesture? : RecorderCall → Option (Gesture Duration)
  | .gesture g => some g
  | _ => none

/-- The reply to a call that is not refused. -/
def granted (images : ImageTable) : RecorderCall → CallReply
  | .search path => .found ((images.get? path).getD ImageMatch.notFound)
  | _ => .done

/-- Whether the caller is told what became of the call. -/
def isAnswered : RecorderCall → Bool
  | .tell _ => false
  | _ => true

end RecorderCall

namespace Recorder

/-- The text of the record file. -/
def fileText (r : Recorder) (stamps : Nat → Stamp) : List Char :=
  (r.fileLines stamps).flatMap fun line => line.toList ++ ['\n']

/-- A gesture of so many milliseconds is noted with as many. -/
theorem perform_ofMillis (r : Recorder) (g : Gesture Millis) :
    r.perform (g.map Duration.ofMillis) = r.record (.gesture g) := by
  have hsame : Duration.toMillis ∘ Duration.ofMillis = id := funext Duration.toMillis_ofMillis
  rw [perform, Gesture.map_map, hsame, Gesture.map_id]

/-- Receives a call. The result of a log call is dropped. -/
def receive (r : Recorder) : RecorderCall → CallReply × Recorder
  | .gesture g =>
    match r.perform g with
    | (.ok _, r) => (.done, r)
    | (.error e, r) => (.refused e, r)
  | .search path =>
    match r.find path with
    | (.ok m, r) => (.found m, r)
    | (.error e, r) => (.refused e, r)
  | .tell call => (.done, r.tell call)

end Recorder

namespace Rehearsal

/-- Prescribed behaviour does not touch the recorder. -/
theorem recorder_answer {α : Type} (r : Rehearsal) (cancels : Bool) (recorded : Except DeviceError α) :
    (r.answer cancels recorded).2.recorder = r.recorder := by
  unfold answer behave
  cases recorded with
  | error e => rfl
  | ok result =>
    cases r.behaviours with
    | nil => rfl
    | cons behaviour rest => cases behaviour <;> rfl

/-- A rehearsal hands every call to its recorder, with durations of so many milliseconds. -/
theorem recorder_device (r : Recorder) :
    (∀ g, (device.perform (plain r) g).2.recorder =
      (r.receive (.gesture (g.map Duration.ofMillis))).2) ∧
    (∀ path, (device.search (plain r) path).2.recorder = (r.receive (.search path)).2) ∧
    ∀ call, (device.tell (plain r) call).2.2.recorder =
      (r.receive (.tell (call.map Duration.ofMillis))).2 := by
  refine ⟨fun g => ?_, fun path => ?_, fun _ => rfl⟩
  · have hperform : (device.perform (plain r) g).2.recorder = (r.perform (g.map Duration.ofMillis)).2 := by
      cases g <;> exact recorder_answer _ _ _
    rw [hperform, Recorder.receive]
    obtain ⟨result, after⟩ := r.perform (g.map Duration.ofMillis)
    cases result <;> rfl
  · have hfind : (device.search (plain r) path).2.recorder = (r.find path).2 := recorder_answer _ _ _
    rw [hfind, Recorder.receive]
    obtain ⟨result, after⟩ := r.find path
    cases result <;> rfl

end Rehearsal

/-- A recorder in use, with the calls it has received: all of them, and those since it was last
cleared. -/
structure Recording where
  recorder : Recorder
  all : List Exchange
  recent : List Exchange

namespace Recording

def use (s : Recording) : RecorderUse → Recording
  | .make call =>
    let (reply, recorder) := s.recorder.receive call
    ⟨recorder, s.all ++ [⟨call, reply⟩], s.recent ++ [⟨call, reply⟩]⟩
  | .clear => ⟨s.recorder.clear, s.all, []⟩

/-- A new recorder with a record file that has been put to some uses. -/
def of (images : ImageTable) (failures : Bindings String) (uses : List RecorderUse) : Recording :=
  uses.foldl use ⟨.new images failures true, [], []⟩

end Recording

/-- What an entry says of a call and the reply to it. -/
structure Noted (images : ImageTable) (failures : Bindings String) (x : Exchange) (e : Entry) : Prop where
  action : x.call.CarriedBy images e.action
  /-- A call is refused for the reason that the table of failures has for its name, and for no other. -/
  refused_iff : x.call.isAnswered = true → ∀ error, x.reply = .refused error ↔
    ∃ message, failures.get? e.action.name = some message ∧ error = .commandFailed message
  failure : x.call.isAnswered = true → ∀ message, failures.get? e.action.name = some message →
    e.result = .failure s!"Command failed: {message}"
  success : x.call.isAnswered = true → failures.get? e.action.name = none → e.result = .success
  answer : ∀ path, x.call = .search path → failures.get? e.action.name = none →
    x.reply = .found ((images.get? path).getD ImageMatch.notFound)

namespace Noted

variable {images : ImageTable} {failures : Bindings String} {call : RecorderCall}

/-- A call whose name is not in the table of failures is granted. -/
theorem of_granted (h : failures.get? (call.action images).name = none) :
    Noted images failures ⟨call, call.granted images⟩ ⟨call.action images, .success⟩ where
  action := call.carriedBy_action images
  refused_iff _ error := by
    have hgranted : call.granted images ≠ .refused error := by cases call <;> nofun
    simp [hgranted, h]
  failure _ message hmessage := by simp [h] at hmessage
  success _ _ := rfl
  answer := by
    rintro path rfl _
    rfl

/-- A call whose name is in the table of failures is refused, with the message of the table. -/
theorem of_refused {message : String} (h : failures.get? (call.action images).name = some message) :
    Noted images failures ⟨call, .refused (.commandFailed message)⟩
      ⟨call.action images, .failure s!"Command failed: {message}"⟩ where
  action := call.carriedBy_action images
  refused_iff _ error := by simp [h, eq_comm]
  failure _ other hother := by
    rw [h] at hother
    cases hother
    rfl
  success _ hnone := by simp [h] at hnone
  answer _ _ hnone := by simp [h] at hnone

/-- Nothing is said about the result of a log call. -/
theorem of_told (told : LogCall Duration) (result : ActionResult) :
    Noted images failures ⟨.tell told, .done⟩ ⟨(RecorderCall.tell told).action images, result⟩ where
  action := RecorderCall.carriedBy_action images (.tell told)
  refused_iff := nofun
  failure := nofun
  success := nofun
  answer := nofun

end Noted

namespace Recorder

variable (r : Recorder)

/-- An action whose name is in the table of failures is noted as failed, with the message of the table. -/
theorem record_of_failure {a : Action} {message : String} (h : r.failures.get? a.name = some message) :
    r.record a = (.error (.commandFailed message), r.note ⟨a, .failure s!"Command failed: {message}"⟩) := by
  simp only [record, failureOf, h, Option.map_some]
  rfl

/-- An action whose name is not in the table of failures is noted as successful. -/
theorem record_of_noFailure {a : Action} (h : r.failures.get? a.name = none) :
    r.record a = (.ok (), r.note ⟨a, .success⟩) := by
  simp only [record, failureOf, h, Option.map_none]

/-- A gesture or a search whose name is in the table of failures is refused, and noted all the same. -/
theorem receive_of_failure {call : RecorderCall} (hanswered : call.isAnswered = true) {message : String}
    (h : r.failures.get? (call.action r.images).name = some message) :
    r.receive call = (.refused (.commandFailed message),
      r.note ⟨call.action r.images, .failure s!"Command failed: {message}"⟩) := by
  have hrecord := r.record_of_failure h
  cases call with
  | gesture g =>
    simp only [RecorderCall.action] at hrecord ⊢
    simp only [receive, perform, hrecord]
  | search path =>
    simp only [RecorderCall.action] at hrecord ⊢
    simp only [receive, find, hrecord, Except.map]
  | tell told => cases hanswered

/-- A call whose name is not in the table of failures is granted, and noted as successful. -/
theorem receive_of_noFailure {call : RecorderCall} (h : r.failures.get? (call.action r.images).name = none) :
    r.receive call = (call.granted r.images, r.note ⟨call.action r.images, .success⟩) := by
  have hrecord := r.record_of_noFailure h
  cases call with
  | gesture g =>
    simp only [RecorderCall.action] at hrecord ⊢
    simp only [receive, perform, hrecord, RecorderCall.granted]
  | search path =>
    simp only [RecorderCall.action] at hrecord ⊢
    simp only [receive, find, hrecord, Except.map, RecorderCall.granted]
  | tell told =>
    simp only [RecorderCall.action] at hrecord ⊢
    simp only [receive, Recorder.tell, hrecord, RecorderCall.granted]

/-- Every call is noted once. -/
theorem exists_note_receive (call : RecorderCall) :
    ∃ e, (r.receive call).2 = r.note e ∧ Noted r.images r.failures ⟨call, (r.receive call).1⟩ e := by
  cases hfailure : r.failures.get? (call.action r.images).name with
  | none =>
    rw [r.receive_of_noFailure hfailure]
    exact ⟨_, rfl, .of_granted hfailure⟩
  | some message =>
    cases hanswered : call.isAnswered with
    | true =>
      rw [r.receive_of_failure hanswered hfailure]
      exact ⟨_, rfl, .of_refused hfailure⟩
    | false =>
      cases call with
      | tell told => exact ⟨_, congrArg Prod.snd (r.record_of_failure hfailure), .of_told told _⟩
      | _ => cases hanswered

end Recorder

namespace Recording

variable {images : ImageTable} {failures : Bindings String}

/-- What holds of a recorder with a record file after some uses, whatever they were. -/
structure Kept (images : ImageTable) (failures : Bindings String) (uses : List RecorderUse) (s : Recording) :
    Prop where
  images_eq : s.recorder.images = images
  failures_eq : s.recorder.failures = failures
  all : s.all.map Exchange.call = uses.filterMap RecorderUse.call?
  recent : s.recent.map Exchange.call =
    (uses.rtakeWhile fun use => use.call?.isSome).filterMap RecorderUse.call?
  entries : List.Forall₂ (Noted images failures) s.recent s.recorder.entries.toList
  file : ∃ file, s.recorder.file = some file ∧ List.Forall₂ (Noted images failures) s.all file.toList

/-- One more use keeps all of it: a call adds one entry to both, and a clearing empties the entries
alone. -/
theorem Kept.use {uses : List RecorderUse} {s : Recording} (h : s.Kept images failures uses)
    (use : RecorderUse) : (s.use use).Kept images failures (uses ++ [use]) := by
  obtain ⟨file, hfile, hnoted⟩ := h.file
  cases use with
  | make call =>
    obtain ⟨e, hnote, he⟩ := s.recorder.exists_note_receive call
    rw [h.images_eq, h.failures_eq] at he
    -- Whatever the reply is, the recorder has noted one entry.
    have huse : s.use (.make call) =
        ⟨s.recorder.note e, s.all ++ [⟨call, (s.recorder.receive call).1⟩],
          s.recent ++ [⟨call, (s.recorder.receive call).1⟩]⟩ := by
      rw [← hnote]
      rfl
    rw [huse]
    refine ⟨h.images_eq, h.failures_eq, ?_, ?_, ?_, file.push e, ?_, ?_⟩
    · simp [h.all, RecorderUse.call?]
    · simp [h.recent, RecorderUse.call?]
    · simpa [Recorder.note] using List.rel_append h.entries (.cons he .nil)
    · simp [Recorder.note, hfile]
    · simpa using List.rel_append hnoted (.cons he .nil)
  | clear =>
    refine ⟨h.images_eq, h.failures_eq, ?_, ?_, .nil, file, hfile, hnoted⟩
    · simp [Recording.use, h.all, RecorderUse.call?]
    · simp [Recording.use, RecorderUse.call?]

/-- It holds after any uses, by induction from the first to the last. -/
theorem kept_of (images : ImageTable) (failures : Bindings String) (uses : List RecorderUse) :
    (of images failures uses).Kept images failures uses := by
  induction uses using List.reverseRecOn with
  | nil => exact ⟨rfl, rfl, rfl, rfl, .nil, #[], rfl, .nil⟩
  | append_singleton uses use ih =>
    rw [of, List.foldl_append]
    exact ih.use use

/-- The gestures of the entries are those of the calls that are gestures. -/
theorem forall₂_gestures {xs : List Exchange} {es : List Entry}
    (h : List.Forall₂ (Noted images failures) xs es) :
    List.Forall₂ (fun g a => RecorderCall.CarriedBy images (.gesture g) a)
      (xs.filterMap fun x => x.call.gesture?) ((es.map Entry.action).filter Action.isGesture) := by
  induction h with
  | nil => exact .nil
  | @cons x e xs es hnoted _ ih =>
    have hcarried := hnoted.action
    obtain ⟨call, reply⟩ := x
    obtain ⟨a, result⟩ := e
    -- A call and its action are gestures together, so both filters keep the same places.
    cases hcarried with
    | gesture hgesture => exact .cons (.gesture hgesture) ih
    | search path => exact ih
    | message text => exact ih
    | namedValue name value => exact ih
    | overlay text hkept => exact ih

end Recording

/-- An entry can be read back if the confidences in the table of images can. -/
theorem Noted.isReadable {images : ImageTable} {failures : Bindings String} {x : Exchange} {e : Entry}
    (himages : ∀ path m, images.get? path = some m → m.confidence.IsReadable)
    (h : Noted images failures x e) : e.action.IsReadable := by
  have hcarried := h.action
  obtain ⟨call, reply⟩ := x
  obtain ⟨a, result⟩ := e
  cases hcarried with
  | search path =>
    change ((images.get? path).getD ImageMatch.notFound).confidence.IsReadable
    cases hpath : images.get? path with
    | none => exact Binary64.isReadable_zero
    | some m => exact himages path m hpath
  | _ => trivial

/-- All entries can be read back if the confidences in the table of images can. -/
theorem Noted.forall_isReadable {images : ImageTable} {failures : Bindings String}
    (himages : ∀ path m, images.get? path = some m → m.confidence.IsReadable)
    {xs : List Exchange} {es : List Entry} (h : List.Forall₂ (Noted images failures) xs es) :
    ∀ e ∈ es, e.action.IsReadable := by
  induction h with
  | nil => exact List.forall_mem_nil _
  | cons hnoted _ ih => exact List.forall_mem_cons.mpr ⟨hnoted.isReadable himages, ih⟩

namespace Recorder

variable {r : Recorder} {stamps : Nat → Stamp}

/-- The text of the record file is cut at its line feeds into its lines, as no line has one inside. -/
theorem lines_fileText (h : ∀ e ∈ r.fileEntries, e.action.IsReadable) :
    Chars.lines (r.fileText stamps) = (r.fileLines stamps).map String.toList ++ [[]] := by
  refine Text.lines_flatMap fun line hline => ?_
  obtain ⟨⟨e, n⟩, hmem, rfl⟩ := List.mem_map.mp hline
  exact Record.not_mem_line (h e (List.fst_mem_of_mem_zipIdx hmem))

/-- From each line its entry is read back, with the stamp of its place. -/
theorem read?_fileLines (hstamps : ∀ n, (stamps n).IsReadable)
    (h : ∀ e ∈ r.fileEntries, e.action.IsReadable) :
    (r.fileLines stamps).map Record.read? = r.fileEntries.mapIdx fun n e => some ⟨stamps n, e⟩ := by
  rw [fileLines, List.map_map, List.mapIdx_eq_zipIdx_map]
  refine List.map_congr_left ?_
  rintro ⟨e, n⟩ hmem
  have he : e ∈ r.fileEntries := List.fst_mem_of_mem_zipIdx hmem
  have hread := Record.read?_line (r := ⟨stamps n, e⟩) (hstamps n) (h e he)
  rw [Function.comp_apply, hread]

end Recorder

/-- What it means that a recorder is a faithful log of its uses. -/
structure Recording.Faithful (images : ImageTable) (failures : Bindings String) (uses : List RecorderUse)
    (stamps : Nat → Stamp) (s : Recording) : Prop where
  all : s.all.map Exchange.call = uses.filterMap RecorderUse.call?
  recent : s.recent.map Exchange.call =
    (uses.rtakeWhile fun use => use.call?.isSome).filterMap RecorderUse.call?
  /-- The entries are the calls since the recorder was last cleared. -/
  entries : List.Forall₂ (Noted images failures) s.recent s.recorder.entries.toList
  /-- The gestures among the entries are those among the calls, and carry their arguments. -/
  gestures : List.Forall₂ (fun g a => RecorderCall.CarriedBy images (.gesture g) a)
    (s.recent.filterMap fun x => x.call.gesture?) s.recorder.gestures
  /-- The file has every call that was ever made. -/
  file : List.Forall₂ (Noted images failures) s.all s.recorder.fileEntries
  /-- The file is cut at its line feeds into lines, with nothing after the last one. -/
  lines : Chars.lines (s.recorder.fileText stamps) =
    (s.recorder.fileLines stamps).map String.toList ++ [[]]
  /-- From each line its entry is read back. -/
  read : (s.recorder.fileLines stamps).map Record.read? =
    s.recorder.fileEntries.mapIdx fun n e => some ⟨stamps n, e⟩
  /-- One more call adds one entry to both. -/
  next : ∀ call, ∃ e, Noted images failures ⟨call, (s.recorder.receive call).1⟩ e ∧
    (s.recorder.receive call).2.entries = s.recorder.entries.push e ∧
    (s.recorder.receive call).2.fileEntries = s.recorder.fileEntries ++ [e]

/-- A recorder with a record file is a faithful log, whatever it is used for, if the texts of the stamps
and of the confidences in its table stand for themselves. Arguments are carried as they are, durations in
milliseconds: a duration of whole milliseconds loses nothing if their number fits into 64 bits. -/
theorem Recording.faithful (images : ImageTable) (failures : Bindings String) (uses : List RecorderUse)
    (stamps : Nat → Stamp) (himages : ∀ path m, images.get? path = some m → m.confidence.IsReadable)
    (hstamps : ∀ n, (stamps n).IsReadable) :
    (of images failures uses).Faithful images failures uses stamps ∧
      ∀ (d : Duration) (ms kept : Millis), d.length = ms.val * 1000000 → (d.KeptAs kept ↔ kept = ms) := by
  have h := kept_of images failures uses
  obtain ⟨file, hfile, hnoted⟩ := h.file
  have hentries : (of images failures uses).recorder.fileEntries = file.toList := by
    rw [Recorder.fileEntries, hfile]
    rfl
  have hreadable : ∀ e ∈ (of images failures uses).recorder.fileEntries, e.action.IsReadable := by
    rw [hentries]
    exact Noted.forall_isReadable himages hnoted
  refine ⟨⟨h.all, h.recent, h.entries, forall₂_gestures h.entries, hentries ▸ hnoted,
    Recorder.lines_fileText hreadable, Recorder.read?_fileLines hstamps hreadable, fun call => ?_⟩,
    fun d ms kept hlength => Duration.keptAs_iff_of_length hlength kept⟩
  obtain ⟨e, hnote, he⟩ := (of images failures uses).recorder.exists_note_receive call
  rw [h.images_eq, h.failures_eq] at he
  rw [hnote]
  exact ⟨e, he, rfl, by simp [Recorder.fileEntries, Recorder.note, hfile]⟩

/-- A tap that fails, a search, a clearing, a press of two seconds and a millisecond and a half, and a line
of log. Of the press the half millisecond is lost; a quarter of a second would be kept as it is. -/
theorem Recording.faithful_tap_search_log :
    let p : Point := ⟨⟨3, by decide, by decide⟩, ⟨4, by decide, by decide⟩⟩
    let door := ImageMatch.located p.x p.y ⟨false, Nat.pow 2 52, -53⟩
    let stamp : Stamp := ⟨⟨7⟩, .ofEpoch 1000000⟩
    let long : Duration := ⟨⟨2, by decide, by decide⟩, ⟨1500000, by decide, by decide⟩⟩
    let quarter : Duration := ⟨⟨0, by decide, by decide⟩, ⟨250000000, by decide, by decide⟩⟩
    let s := of [("door.png", door)] [("tap", "stuck")]
      [.make (.gesture (.tap p)), .make (.search "door.png"), .clear, .make (.gesture (.longPress p long)),
        .make (.tell (.message "done"))]
    s.recent.map Exchange.call = [.gesture (.longPress p long), .tell (.message "done")] ∧
    List.Forall₂ (fun g a => RecorderCall.CarriedBy [("door.png", door)] (.gesture g) a) [.longPress p long]
      s.recorder.gestures ∧
    (s.recorder.fileLines fun _ => stamp).map Record.read? =
      [some ⟨stamp, .gesture (.tap p), .failure "Command failed: stuck"⟩,
        some ⟨stamp, .find "door.png" door, .success⟩,
        some ⟨stamp, .gesture (.longPress p ⟨2001, by decide, by decide⟩), .success⟩,
        some ⟨stamp, .message "done", .success⟩] ∧
    ∀ kept, quarter.KeptAs kept ↔ kept = ⟨250, by decide, by decide⟩ := by
  intro p door stamp long quarter s
  have himages : ∀ path m, Bindings.get? [("door.png", door)] path = some m → m.confidence.IsReadable := by
    intro path m hm
    have hdoor : m = door := by
      unfold Bindings.get? at hm
      split at hm
      · exact (Option.some.inj hm).symm
      · cases hm
    subst hdoor
    unfold Binary64.IsReadable
    decide +kernel
  have hstamp : stamp.IsReadable := ⟨by decide +kernel, by decide +kernel⟩
  obtain ⟨h, hwhole⟩ := faithful [("door.png", door)] [("tap", "stuck")]
    [.make (.gesture (.tap p)), .make (.search "door.png"), .clear, .make (.gesture (.longPress p long)),
      .make (.tell (.message "done"))]
    (fun _ => stamp) himages fun _ => hstamp
  exact ⟨h.recent, h.gestures, h.read, fun kept => hwhole quarter _ kept rfl⟩

end TouchScript
