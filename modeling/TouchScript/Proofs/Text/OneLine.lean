import TouchScript.Action
import TouchScript.Proofs.Text.Decimal
import TouchScript.Proofs.Text.Pieces
import TouchScript.Value

namespace TouchScript

namespace Text

/-- Whether a text has no line feed. -/
def OneLine (s : String) : Prop :=
  '\n' ∉ s.toList

instance : DecidablePred OneLine :=
  fun s => inferInstanceAs (Decidable ('\n' ∉ s.toList))

variable {s t : String}

/-- Two texts in a row are on one line exactly if both are. -/
@[simp]
theorem oneLine_append : OneLine (s ++ t) ↔ OneLine s ∧ OneLine t := by
  simp [OneLine]

/-- Being on one line is a property of the characters alone. -/
@[simp]
theorem oneLine_ofList {chars : List Char} : OneLine (String.ofList chars) ↔ '\n' ∉ chars := by
  simp [OneLine]

@[simp]
theorem oneLine_toString : OneLine (toString s) ↔ OneLine s :=
  Iff.rfl

/-- The line feed is a blank, so a text without blanks is on one line. -/
theorem oneLine_of_noBlank (h : ∀ c ∈ s.toList, Chars.isBlank c = false) : OneLine s := by
  intro hmem
  cases h '\n' hmem

/-- What can stand in a line is on one line. -/
theorem IsInline.oneLine (h : IsInline s) : OneLine s :=
  h.2.2

theorem IsToken.oneLine (h : IsToken s) : OneLine s :=
  h.isInline.oneLine

theorem IsPhrase.oneLine (h : IsPhrase s) : OneLine s :=
  h.isInline.oneLine

/-- Joined texts are on one line if each of them and what stands between them is. -/
theorem oneLine_join {separator : String} (hseparator : OneLine separator) {texts : List String}
    (h : ∀ s ∈ texts, OneLine s) : OneLine (join separator texts) := by
  induction texts with
  | nil => exact List.not_mem_nil
  | cons s rest ih =>
    obtain ⟨hs, hrest⟩ := List.forall_mem_cons.mp h
    cases rest with
    | nil => rwa [join_singleton]
    | cons t more =>
      have hmore := ih hrest
      unfold OneLine at hs hseparator hmore ⊢
      rw [toList_join_cons]
      simp [hs, hseparator, hmore]

/-- A text on one line stays so when it is cut at its spaces. -/
theorem oneLine_of_mem_unspaced (h : OneLine s) {piece : String} (hpiece : piece ∈ unspaced s) :
    OneLine piece := by
  obtain ⟨chars, hchars, rfl⟩ := List.mem_map.mp hpiece
  rw [oneLine_ofList]
  exact fun hmem => h (Chars.forall_mem_splitOnP _ _ chars hchars '\n' hmem).2

/-- There is no line feed among the digits of a number. -/
theorem not_mem_toDigits (n : Nat) : '\n' ∉ Nat.toDigits 10 n := by
  intro hmem
  cases Chars.isDigit_of_mem_toDigits hmem

/-- An integer is written on one line. -/
@[simp]
theorem oneLine_ofInt (n : Int) : OneLine (ofInt n) :=
  (isToken_ofInt n).oneLine

/-- A count is written on one line. -/
@[simp]
theorem oneLine_repr (n : Nat) : OneLine n.repr := by
  rw [OneLine, Nat.toList_repr]
  exact not_mem_toDigits n

end Text

open Text

/-- The value of a token on one line is shown on one line, whether it is a number or text. -/
theorem Value.oneLine_ofLiteral {token : String} (h : OneLine token) : OneLine (ofLiteral token).toText := by
  unfold ofLiteral
  dsimp only
  split
  · split
    · exact oneLine_ofInt _
    · exact h
  · exact h

/-- The digits of a decimal are digits. -/
theorem Decimal.isDigit_positional (d : Decimal) :
    ∀ c ∈ d.positional.1 ++ d.positional.2, c.isDigit = true := by
  have hchars : ∀ c ∈ d.chars, c.isDigit = true := fun _ => Chars.isDigit_of_mem_toDigits
  have hzeros (n : Nat) : ∀ c ∈ List.replicate n '0', c.isDigit = true := fun c hc => by
    rw [List.eq_of_mem_replicate hc]
    rfl
  unfold positional
  dsimp only
  split
  · rw [List.singleton_append]
    exact List.forall_mem_cons.mpr ⟨rfl, List.forall_mem_append.mpr ⟨hzeros _, hchars⟩⟩
  · split
    · rw [List.append_nil]
      exact List.forall_mem_append.mpr ⟨hchars, hzeros _⟩
    · rwa [List.take_append_drop]

namespace Binary64

/-- The sign of a binary number takes no second line. -/
@[simp]
theorem oneLine_signText (x : Binary64) : OneLine x.signText := by
  unfold signText
  split <;> decide

/-- A binary number is written on one line: its decimals are digits, a sign and a point. -/
@[simp]
theorem oneLine_text (x : Binary64) : OneLine x.text := by
  have hdigits := (x.shortest .up).isDigit_positional
  obtain ⟨hwhole, hfraction⟩ := List.forall_mem_append.mp hdigits
  have hline {chars : List Char} (h : ∀ c ∈ chars, c.isDigit = true) : '\n' ∉ chars := fun hmem => by
    cases h '\n' hmem
  unfold text
  dsimp only
  split
  · simp +decide [hline hwhole]
  · simp +decide [hline hwhole, hline hfraction]

/-- This is so for the form with a point as well. -/
theorem oneLine_textWithPoint (x : Binary64) : OneLine x.textWithPoint := by
  unfold textWithPoint
  split
  · simp +decide [not_mem_toDigits]
  · exact oneLine_text x

end Binary64

/-- A point is written on one line. -/
@[simp]
theorem Point.oneLine_text (p : Point) : OneLine p.text := by
  simp +decide [text]

/-- The arguments of a gesture are numbers and points, so they are written on one line. -/
theorem Gesture.oneLine_arguments (g : Gesture Millis) : OneLine g.arguments := by
  have hpoints (points : List Point) : OneLine (join " " (points.map Point.text)) := by
    refine oneLine_join (by decide) fun s hs => ?_
    obtain ⟨p, _, rfl⟩ := List.mem_map.mp hs
    exact p.oneLine_text
  cases g with
  | multiTap points => exact hpoints points
  | zoom center distance duration direction => cases direction <;> simp +decide [arguments, Direction.text]
  | _ => simp +decide [arguments, hpoints]

namespace Action

/-- The texts that were passed along with a call. -/
def texts : Action → List String
  | .gesture _ => []
  | .message text => [text]
  | .namedValue name value => [name, value]
  | .overlay text _ => [text]
  | .find path _ => [path]

/-- No name of a call has a line feed. -/
theorem oneLine_name (a : Action) : OneLine a.name := by
  cases a with
  | gesture g => cases g <;> simp +decide [name, Gesture.name]
  | _ => simp +decide [name]

/-- The text of a call is on one line, if what was passed along is. -/
theorem oneLine_text {a : Action} (h : ∀ s ∈ a.texts, OneLine s) : OneLine a.text := by
  have harguments : OneLine a.arguments := by
    cases a with
    | gesture g => exact g.oneLine_arguments
    | message text => exact h text (.head _)
    | namedValue name value =>
      have hname := h name (.head _)
      have hvalue := h value (.tail _ (.head _))
      simp +decide [arguments, hname, hvalue]
    | overlay text duration =>
      have htext := h text (.head _)
      simp +decide [arguments, htext]
    | find path m =>
      have hpath := h path (.head _)
      simp only [arguments]
      split
      · simp +decide [hpath]
      · simp +decide [hpath]
  simp +decide [text, oneLine_name, harguments]

end Action

end TouchScript
