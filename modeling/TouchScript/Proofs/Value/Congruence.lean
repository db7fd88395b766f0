import TouchScript.Proofs.Value.Text

namespace TouchScript

namespace Value

variable {v w : Value}

/-- Equal values are the same number, as the number of a value depends on its text alone. -/
theorem toNumber_congr (h : v.same w = true) : v.toNumber = w.toNumber := by
  rw [v.toNumber_eq, w.toNumber_eq, (same_iff v w).mp h]

/-- Equal values are both true or both false on their own. -/
theorem isTruthy_congr (h : v.same w = true) : v.isTruthy = w.isTruthy := by
  rw [v.isTruthy_eq, w.isTruthy_eq, (same_iff v w).mp h]

theorem same_refl (v : Value) : v.same v = true :=
  (same_iff v v).mpr rfl

/-- Equality of values is that of their texts, so it is an equivalence. -/
theorem same_equivalence : Equivalence fun v w : Value => v.same w = true where
  refl := same_refl
  symm h := (same_iff _ _).mpr ((same_iff _ _).mp h).symm
  trans h k := (same_iff _ _).mpr (((same_iff _ _).mp h).trans ((same_iff _ _).mp k))

end Value

/-- Equal values give the same results, whatever is compared with them. -/
theorem Comparison.holds_congr (op : Comparison) {v v' w w' : Value} (hv : v.same v' = true)
    (hw : w.same w' = true) : op.holds v w = op.holds v' w' := by
  have hleft := (Value.same_iff v v').mp hv
  have hright := (Value.same_iff w w').mp hw
  have hnumber := Value.toNumber_congr hv
  have hother := Value.toNumber_congr hw
  cases op <;> simp only [holds, hleft, hright, hnumber, hother]

/-- Two contexts have the same counters, and the same variables with equal values. -/
structure Context.Same (a b : Context) : Prop where
  counters : ∀ name, a.counters.get? name = b.counters.get? name
  values : ∀ name, Option.Rel (fun v w : Value => v.same w = true) (a.values.get? name) (b.values.get? name)

namespace Context.Same

variable {a b : Context}

/-- A variable has equal values in both contexts, or the same default in both. -/
theorem getD (h : a.Same b) (name : String) (default : Value) :
    ((a.values.get? name).getD default).same ((b.values.get? name).getD default) = true := by
  have hvalues := h.values name
  generalize a.values.get? name = v, b.values.get? name = w at hvalues
  cases hvalues with
  | some hsame => exact hsame
  | none => exact default.same_refl

/-- A token has equal values in both. -/
theorem resolve (h : a.Same b) (token : String) : (a.resolve token).same (b.resolve token) = true := by
  unfold Context.resolve
  split
  · exact h.getD _ _
  · rw [h.counters]
    exact Value.same_refl _
  · exact Value.same_refl _

/-- No condition tells such contexts apart: not how it is decided, and not whether it is one. -/
theorem decide?_eq (h : a.Same b) (condition : String) :
    Condition.decide? a condition = Condition.decide? b condition := by
  have hholds : Condition.holds a = Condition.holds b := by
    funext read
    cases read with
    | compare op lhs rhs => exact op.holds_congr (h.resolve lhs) (h.resolve rhs)
    | token word => exact Value.isTruthy_congr (h.resolve word)
  rw [Condition.decide?, Condition.decide?, hholds]

/-- No text tells them apart. -/
theorem interpolate_eq (h : a.Same b) (text : String) : a.interpolate text = b.interpolate text := by
  have hword (word : String) : (a.resolve word).toText = (b.resolve word).toText :=
    (Value.same_iff _ _).mp (h.resolve word)
  simp only [interpolate, hword]

/-- Equal values may be written into a variable. -/
theorem setVariable (h : a.Same b) (name : String) {v w : Value} (hsame : v.same w = true) :
    (a.setVariable name v).Same (b.setVariable name w) where
  counters := h.counters
  values other := by
    simp only [Context.setVariable, Bindings.get?_set]
    split
    · exact .some hsame
    · exact h.values other

end Context.Same

namespace Machine

/-- What a `set` does in two machines whose contexts cannot be told apart: the contexts still cannot be
told apart, and both machines have noted the same error or none. -/
def SetsAlike (m m' after after' : Machine) : Prop :=
  after.context.Same after'.context ∧
    ∃ added : Option RunError, after.errors.toList = m.errors.toList ++ added.toList ∧
      after'.errors.toList = m'.errors.toList ++ added.toList

variable {m m' : Machine}

/-- A `set` leaves the contexts alike, since the texts and the numbers that it works with are equal. -/
theorem setsAlike_assign (h : m.context.Same m'.context) (settings : Settings) (line : Nat) (name : String)
    (source : SetSource) :
    SetsAlike m m' (m.assign settings line name source) (m'.assign settings line name source) := by
  have hwrites {v w : Value} (hsame : v.same w = true) : SetsAlike m m'
      (m.withContext (m.context.setVariable name v)) (m'.withContext (m'.context.setVariable name w)) :=
    ⟨h.setVariable name hsame, none, by simp [withContext], by simp [withContext]⟩
  cases source with
  | literal token => exact hwrites (h.resolve token)
  | binary lhs op rhs =>
    simp only [assign, Value.toNumber_congr (h.resolve lhs), Value.toNumber_congr (h.resolve rhs)]
    generalize (m'.context.resolve lhs).toNumber = left
    generalize (m'.context.resolve rhs).toNumber = right
    split
    · split
      · exact hwrites (Value.same_refl _)
      · have hfails (m : Machine) : (m.fail (.arithmetic line left op right)).errors.toList =
            m.errors.toList ++ [.arithmetic line left op right] := Array.toList_push
        exact ⟨h, some _, hfails m, hfails m'⟩
    · exact hwrites (Value.same_refl _)

end Machine

/-- Values are equal for a script exactly if they have the same text. This is an equivalence, and equal
values have the same number and count as true alike. In contexts that differ only by equal values all
conditions come out the same or are faulty in the same way, all texts are filled in the same way, and
every `set` leads to contexts that differ only by equal values, with the same error or none. -/
theorem Value.same_indistinguishable :
    (∀ v w : Value, v.same w = true ↔ v.toText = w.toText) ∧
      (Equivalence fun v w : Value => v.same w = true) ∧
      (∀ v w : Value, v.same w = true →
        v.toNumber = w.toNumber ∧ v.isTruthy = w.isTruthy ∧ v.toText = w.toText) ∧
      ∀ a b : Context, a.Same b →
        (∀ condition, Condition.decide? a condition = Condition.decide? b condition) ∧
        (∀ text, a.interpolate text = b.interpolate text) ∧
        ∀ settings (m m' : Machine) index line name source,
          let command := Command.leaf line (.set name source)
          Machine.SetsAlike m m' ((m.withContext a).dispatch settings index command)
            ((m'.withContext b).dispatch settings index command) := by
  refine ⟨same_iff, same_equivalence, fun v w h => ?_, fun a b h => ?_⟩
  · exact ⟨toNumber_congr h, isTruthy_congr h, (same_iff v w).mp h⟩
  · refine ⟨h.decide?_eq, h.interpolate_eq, fun settings m m' index line name source => ?_⟩
    have hcounted : ((m.withContext a).counting (.leaf line (.set name source))).context.Same
        ((m'.withContext b).counting (.leaf line (.set name source))).context := h
    exact Machine.setsAlike_assign hcounted settings line name source

/-- A context in which `x` is a number, and one in which it is the text of the number. -/
theorem Value.five_indistinguishable :
    let five : Number := ⟨5, by decide, by decide⟩
    let a := Context.empty.setVariable "x" (.number five)
    let b := Context.empty.setVariable "x" (.text "5")
    let m := Machine.start Settings.default []
    let command := Command.leaf 1 (.set "y" (.binary "$x" .div "0"))
    a.Same b ∧ Condition.decide? a "$x == 5" = Condition.decide? b "$x == 5" ∧
      a.interpolate "x is $x" = b.interpolate "x is $x" ∧
      Machine.SetsAlike m m ((m.withContext a).dispatch Settings.default 0 command)
        ((m.withContext b).dispatch Settings.default 0 command) := by
  intro five a b m command
  have hnothing : Context.empty.Same Context.empty := ⟨fun _ => rfl, fun _ => .none⟩
  have hsame : a.Same b := hnothing.setVariable "x" (by decide)
  obtain ⟨_, _, _, hcontexts⟩ := Value.same_indistinguishable
  obtain ⟨hconditions, htexts, hsets⟩ := hcontexts a b hsame
  exact ⟨hsame, hconditions _, htexts _, hsets Settings.default m m 0 1 "y" (.binary "$x" .div "0")⟩

end TouchScript
