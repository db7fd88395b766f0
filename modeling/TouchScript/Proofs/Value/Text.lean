import TouchScript.Condition
import TouchScript.Proofs.Machine.Move
import TouchScript.Proofs.Text.Cut
import TouchScript.Proofs.Text.Decimal

namespace TouchScript

namespace Text

/-- Different integers are written differently. -/
theorem ofInt_inj {a b : Int} : ofInt a = ofInt b ↔ a = b := by
  refine ⟨fun hsame => ?_, congrArg ofInt⟩
  have hchars : Chars.ofInt a = Chars.ofInt b := String.ofList_inj.mp hsame
  have hread : (some a : Option Int) = some b := by
    rw [← Chars.integer?_ofInt, ← Chars.integer?_ofInt, hchars]
  exact Option.some.inj hread

/-- A word has no blanks to be trimmed away. -/
theorem IsToken.trim_eq {s : String} (h : IsToken s) : trim s = s :=
  h.isInline.2.1

end Text

namespace Value

variable {token : String}

/-- Two values are equal for a script exactly if they have the same text. -/
theorem same_iff (v w : Value) : v.same w = true ↔ v.toText = w.toText := by
  cases v with
  | text s => cases w <;> simp [same]
  | number n =>
    cases w with
    | text s => simp [same]
    | number k => simp [same, toText, Text.ofInt_inj]

/-- The number of a value is read from its text. -/
theorem toNumber_eq (v : Value) : v.toNumber = (text v.toText).toNumber := by
  cases v with
  | text s => rfl
  | number n =>
    simp only [toNumber, toText]
    rw [(Text.isToken_ofInt n.val).trim_eq, Text.signed?_ofInt]
    rfl

/-- Whether a value counts as true is read from its text. -/
theorem isTruthy_eq (v : Value) : v.isTruthy = (text v.toText).isTruthy := by
  cases v with
  | text s => rfl
  | number n =>
    have hone : Text.ofInt n.val = "1" ↔ n.val = 1 := Text.ofInt_inj (b := 1)
    have htrue : Text.ofInt n.val ≠ "true" := by
      intro hsame
      have hchars : Chars.ofInt n.val = "true".toList := by
        simpa [Text.ofInt] using congrArg String.toList hsame
      have hread := Chars.integer?_ofInt n.val
      rw [hchars] at hread
      cases hread
    rw [Bool.eq_iff_iff]
    simp [isTruthy, toText, hone, htrue]

/-- A word is stored with the text it is written with. -/
theorem toText_ofLiteral (htoken : Text.IsToken token) : (ofLiteral token).toText = token := by
  unfold ofLiteral
  rw [htoken.trim_eq]
  dsimp only
  split
  next n _ =>
    split
    next hcanonical => exact hcanonical
    next => rfl
  next => rfl

/-- Exactly the canonical forms of numbers are stored as numbers. -/
theorem ofLiteral_eq_number_iff (htoken : Text.IsToken token) (n : Number) :
    ofLiteral token = .number n ↔ token = Text.ofInt n.val := by
  constructor
  · intro hnumber
    rw [← toText_ofLiteral htoken, hnumber]
    rfl
  · rintro rfl
    simp [ofLiteral, htoken.trim_eq, Text.signed?_ofInt]

end Value

/-- A word that stands for itself: it begins with no sigil. -/
def Text.IsLiteral (s : String) : Prop :=
  Text.IsToken s ∧ s.toList.head? ≠ some '$' ∧ s.toList.head? ≠ some '@'

namespace Context

variable (ctx : Context)

/-- A word without a sigil stands for itself. -/
theorem resolve_literal {token : String} (htoken : Text.IsLiteral token) :
    ctx.resolve token = Value.ofLiteral token := by
  obtain ⟨htoken, hvariable, hcounter⟩ := htoken
  have htrim : Chars.trim token.toList = token.toList := htoken.isInline.trimmed.trim_eq
  unfold resolve
  rw [htrim]
  split
  next name hname => simp [hname] at hvariable
  next name hname => simp [hname] at hcounter
  next => rw [String.ofList_toList]

/-- A dollar sign and a name without blanks is a text without blanks at its ends. -/
theorem trimmed_variable {name : String} (hname : ∀ c ∈ name.toList, Chars.isBlank c = false) :
    Chars.Trimmed ("$" ++ name).toList := by
  refine Chars.trimmed_of_noBlank (by simp) ?_
  simpa using And.intro (show Chars.isBlank '$' = false from rfl) hname

/-- A name behind a sigil stands for the variable, or for zero if there is none. -/
theorem resolve_variable {name : String} (hname : ∀ c ∈ name.toList, Chars.isBlank c = false) :
    ctx.resolve ("$" ++ name) = (ctx.values.get? name).getD (.number Number.zero) := by
  unfold resolve
  rw [(trimmed_variable hname).trim_eq]
  simp

end Context

namespace Comparison

/-- A comparison of two operands, written with single spaces. -/
def written (op : Comparison) (a b : String) : String :=
  a ++ " " ++ op.symbol ++ " " ++ b

/-- Comparisons are written without blanks. -/
theorem isToken_symbol (op : Comparison) : Text.IsToken op.symbol := by
  cases op <;> decide

end Comparison

namespace Condition

variable {a b : String}

/-- A written comparison has no blanks at its ends if its operands have none. -/
theorem trim_written (ha : Chars.Trimmed a.toList) (hb : Chars.Trimmed b.toList) (op : Comparison) :
    Text.trim (op.written a b) = op.written a b := by
  have htext : (op.written a b).toList = a.toList ++ ((' ' :: op.symbol.toList ++ [' ']) ++ b.toList) := by
    simp [Comparison.written]
  rw [Text.trim, htext, (ha.append hb _).trim_eq, ← htext, String.ofList_toList]

/-- A written comparison is not empty: it has a symbol. -/
theorem written_ne (op : Comparison) : op.written a b ≠ "" := by
  intro hempty
  simpa [Comparison.written] using congrArg String.toList hempty

/-- An equality is cut at its first `==`. -/
theorem read_equal (ha : Chars.Trimmed a.toList) (hb : Chars.Trimmed b.toList)
    (hnone : ¬ Text.Occurs "==" a) :
    read (Comparison.equal.written a b) = .ok (.compare .equal a b) := by
  have hsides : Text.sidesOf "==" (Comparison.equal.written a b) = some (a, b) :=
    Text.sidesOf_spaced Comparison.equal.isToken_symbol ha hb hnone
  have hleft : a ≠ "" := by simpa using ha.ne_nil
  have hright : b ≠ "" := by simpa using hb.ne_nil
  simp [read, trim_written ha hb, written_ne, Comparison.all, Comparison.symbol, hsides, hleft, hright]

/-- An inequality is cut at its first `!=`, unless there is a `==` in it. -/
theorem read_unequal (ha : Chars.Trimmed a.toList) (hb : Chars.Trimmed b.toList)
    (hequal : ¬ Text.Occurs "==" a) (hunequal : ¬ Text.Occurs "!=" a) (hother : ¬ Text.Occurs "==" b) :
    read (Comparison.unequal.written a b) = .ok (.compare .unequal a b) := by
  have hnone : Text.sidesOf "==" (Comparison.unequal.written a b) = none :=
    Text.sidesOf_eq_none Comparison.equal.isToken_symbol hequal (by decide) hother
  have hsides : Text.sidesOf "!=" (Comparison.unequal.written a b) = some (a, b) :=
    Text.sidesOf_spaced Comparison.unequal.isToken_symbol ha hb hunequal
  have hleft : a ≠ "" := by simpa using ha.ne_nil
  have hright : b ≠ "" := by simpa using hb.ne_nil
  simp [read, trim_written ha hb, written_ne, Comparison.all, Comparison.symbol, hnone, hsides, hleft, hright]

end Condition

/-- A mark that does not occur in a name does not occur in a reference to it, unless it begins with the
sigil. -/
theorem Text.not_occurs_variable {mark name : String} (hhead : mark.toList.head? ≠ some '$')
    (hne : mark ≠ "") (hname : ¬ Text.Occurs mark name) : ¬ Text.Occurs mark ("$" ++ name) := by
  intro hmark
  have hchars : mark.toList <:+: '$' :: name.toList := by simpa [Occurs] using hmark
  rcases List.infix_cons_iff.mp hchars with hinitial | hinside
  · rcases List.prefix_cons_iff.mp hinitial with hnil | ⟨rest, hcons, _⟩
    · exact hne (by simpa using hnil)
    · simp [hcons] at hhead
  · exact hname hinside

namespace Machine

variable (settings : Settings) (m : Machine)

/-- A word that is written into a variable is kept as it is written: it is the text of the variable,
reading it as a number gives the number of the variable, and no other word equals the variable. It is
stored as a number exactly if it is written as numbers are. -/
theorem words_kept (index line : Nat) {name token other : String} (htoken : Text.IsLiteral token)
    (hother : Text.IsLiteral other) (hname : ∀ c ∈ name.toList, Chars.isBlank c = false)
    (hequal : ¬ Text.Occurs "==" name) :
    let after := (m.dispatch settings index (.leaf line (.set name (.literal token)))).context
    (∃ v, after.values.get? name = some v ∧ v.toText = token ∧
        v.toNumber = (Value.text token).toNumber) ∧
      Condition.decide? after (Comparison.equal.written ("$" ++ name) other) =
        .ok (decide (token = other)) ∧
      (¬ Text.Occurs "!=" name → ¬ Text.Occurs "==" other →
        Condition.decide? after (Comparison.unequal.written ("$" ++ name) other) =
          .ok (decide (token ≠ other))) ∧
      ((∃ n, Value.ofLiteral token = .number n) ↔ ∃ n : Number, token = Text.ofInt n.val) := by
  intro after
  have hget : after.values.get? name = some (Value.ofLiteral token) := by
    have hafter : after.values = m.context.values.set name (m.context.resolve token) := rfl
    rw [hafter, Bindings.get?_set, if_pos rfl, m.context.resolve_literal htoken]
  have htext : (Value.ofLiteral token).toText = token := Value.toText_ofLiteral htoken.1
  have hleft : (after.resolve ("$" ++ name)).toText = token := by
    rw [after.resolve_variable hname, hget, Option.getD_some, htext]
  have hright : (after.resolve other).toText = other := by
    rw [after.resolve_literal hother, Value.toText_ofLiteral hother.1]
  have hvariable := Context.trimmed_variable hname
  have hword : Chars.Trimmed other.toList := hother.1.isInline.trimmed
  -- Only the name could bring in another operator, as the sign before it is none.
  have hnone : ¬ Text.Occurs "==" ("$" ++ name) :=
    Text.not_occurs_variable (by decide) (by decide) hequal
  refine ⟨⟨_, hget, htext, ?_⟩, ?_, fun hunequal hmark => ?_, ?_⟩
  · rw [Value.toNumber_eq, htext]
  · rw [Condition.decide?, Condition.read_equal hvariable hword hnone]
    simp [Except.map, Condition.holds, Comparison.holds, hleft, hright, Bool.beq_eq_decide_eq]
  · have hnot : ¬ Text.Occurs "!=" ("$" ++ name) :=
      Text.not_occurs_variable (by decide) (by decide) hunequal
    rw [Condition.decide?, Condition.read_unequal hvariable hword hnone hnot hmark]
    simp [Except.map, Condition.holds, Comparison.holds, hleft, hright, bne, Bool.beq_eq_decide_eq]
  · exact exists_congr fun n => Value.ofLiteral_eq_number_iff htoken.1 n

/-- A code with leading zeros is told apart from the number it reads as. -/
theorem agentCode_kept :
    let m := start Settings.default []
    let after := (m.dispatch Settings.default 0 (.leaf 1 (.set "code" (.literal "007")))).context
    Text.IsLiteral "007" ∧ Text.IsLiteral "7" ∧
      (∃ v, after.values.get? "code" = some v ∧ v.toText = "007") ∧
      Condition.decide? after "$code == 7" = .ok false ∧ Condition.decide? after "$code != 7" = .ok true ∧
      ¬ ∃ n, Value.ofLiteral "007" = .number n := by
  intro m after
  have htoken : Text.IsLiteral "007" := ⟨by decide, by decide, by decide⟩
  have hother : Text.IsLiteral "7" := ⟨by decide, by decide, by decide⟩
  have hname : Text.IsToken "code" := by decide
  obtain ⟨⟨v, hget, htext, _⟩, hequal, hunequal, hnumber⟩ :=
    m.words_kept Settings.default 0 1 htoken hother hname.2 (by decide)
  replace hunequal := hunequal (by decide) (by decide)
  rw [show Comparison.equal.written ("$" ++ "code") "7" = "$code == 7" by decide] at hequal
  rw [show Comparison.unequal.written ("$" ++ "code") "7" = "$code != 7" by decide] at hunequal
  refine ⟨htoken, hother, ⟨v, hget, htext⟩, hequal, hunequal, ?_⟩
  rw [hnumber]
  rintro ⟨n, hn⟩
  have hread : (Text.signed? "007" : Option Number) = some n := by rw [hn, Text.signed?_ofInt]
  have hseven : (Text.signed? "007" : Option Number) = some ⟨7, by decide, by decide⟩ := by decide
  obtain rfl := Option.some.inj (hread.symm.trans hseven)
  exact absurd hn (by decide)

end Machine

end TouchScript
