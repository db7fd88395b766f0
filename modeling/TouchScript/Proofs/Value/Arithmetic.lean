import TouchScript.Proofs.Run.Refusal

namespace TouchScript

namespace Operator

/-- The exact results of the operations over the integers. A quotient is cut toward zero: what remains is
less than the divisor and on the side of the dividend. -/
inductive Exact (l r : Int) : Operator → Int → Prop where
  | add : Exact l r .add (l + r)
  | sub : Exact l r .sub (l - r)
  | mul : Exact l r .mul (l * r)
  | div {quotient remainder : Int} (hdivisor : r ≠ 0) (hdivided : l = r * quotient + remainder)
      (hless : remainder.natAbs < r.natAbs) (habove : 0 ≤ l → 0 ≤ remainder)
      (hbelow : l ≤ 0 → remainder ≤ 0) : Exact l r .div quotient

/-- Division toward zero is exact: the remainder is less than the divisor and on the side of the
dividend. -/
theorem exact_tdiv {l r : Int} (hr : r ≠ 0) : Exact l r .div (l.tdiv r) := by
  have hless : (l.tmod r).natAbs < r.natAbs := by
    rw [Int.natAbs_tmod]
    exact Nat.mod_lt _ (Int.natAbs_pos.mpr hr)
  have hbelow (hl : l ≤ 0) : l.tmod r ≤ 0 := by
    have hopposite := Int.tmod_nonneg r (Int.neg_nonneg_of_nonpos hl)
    rw [Int.neg_tmod] at hopposite
    omega
  exact .div hr (Int.mul_tdiv_add_tmod l r).symm hless (Int.tmod_nonneg r) hbelow

/-- No other quotient is exact, as two of them would differ by less than one. -/
theorem Exact.eq_tdiv {l r quotient : Int} (h : Exact l r .div quotient) :
    r ≠ 0 ∧ l.tdiv r = quotient := by
  cases h with
  | div hr hdivided hless habove hbelow =>
    refine ⟨hr, ?_⟩
    rcases Int.le_total 0 l with hl | hl
    · have hremainder := habove hl
      exact ((Int.tdiv_tmod_unique hl hr).mpr ⟨by omega, hremainder, by omega⟩).1
    · have hremainder := hbelow hl
      exact ((Int.tdiv_tmod_unique' hl hr).mpr ⟨by omega, by omega, hremainder⟩).1

/-- The exact results are those that are computed over the integers. -/
theorem exact_iff {op : Operator} {l r n : Int} : op.Exact l r n ↔ op.integral? l r = some n := by
  constructor
  · intro h
    cases op with
    | div =>
      obtain ⟨hr, rfl⟩ := h.eq_tdiv
      simp [integral?, hr]
    | _ => cases h; rfl
  · intro h
    cases op with
    | div =>
      simp only [integral?, Option.ite_none_left_eq_some, Option.some.injEq] at h
      obtain ⟨hr, rfl⟩ := h
      exact exact_tdiv hr
    | _ =>
      cases h
      constructor

/-- An operation has at most one exact result. -/
theorem Exact.unique {op : Operator} {l r n k : Int} (h : op.Exact l r n) (hother : op.Exact l r k) : n = k :=
  Option.some.inj ((exact_iff.mp h).symm.trans (exact_iff.mp hother))

/-- No number is the result: the divisor is zero, or the exact result is out of range. -/
def Refuses (op : Operator) (l r : Number) : Prop :=
  op = .div ∧ r.val = 0 ∨
    ∃ n, op.Exact l.val r.val n ∧ (n < -9223372036854775808 ∨ 9223372036854775807 < n)

/-- Over the integers only a division by zero has no result. -/
theorem integral?_eq_none_iff {op : Operator} {l r : Int} :
    op.integral? l r = none ↔ op = .div ∧ r = 0 := by
  cases op <;> simp [integral?]

/-- No number is computed exactly if the divisor is zero or the exact result is out of range. -/
theorem refuses_iff {op : Operator} {l r : Number} : op.Refuses l r ↔ op.compute? l r = none := by
  unfold Refuses compute?
  rw [← integral?_eq_none_iff]
  simp only [exact_iff]
  cases op.integral? l.val r.val with
  | none => simp
  | some n => simp [Ranged.ofInt?_eq_none_iff]

/-- A number that is computed is the exact result. -/
theorem exact_of_compute? {op : Operator} {l r n : Number} (h : op.compute? l r = some n) :
    op.Exact l.val r.val n.val := by
  obtain ⟨k, hintegral, hrange⟩ := Option.bind_eq_some_iff.mp h
  rw [exact_iff, hintegral, Ranged.ofInt?_eq_some_iff.mp hrange]

end Operator

namespace Machine

/-- A number has been written into one variable, and nothing else has changed. -/
structure Writes (m after : Machine) (name : String) (n : Number) : Prop where
  value : after.context.values.get? name = some (.number n)
  others : ∀ other, other ≠ name → after.context.values.get? other = m.context.values.get? other
  counters : after.context.counters = m.context.counters
  functions : after.context.functions = m.context.functions
  labels : after.context.labels = m.context.labels
  errors : after.errors = m.errors

/-- An operation has been refused: all is as before, but for one error that shows the operation. -/
structure Uncomputed (m after : Machine) (line : Nat) (l : Number) (op : Operator) (r : Number) : Prop where
  context : after.context = m.context
  errors : ∃ e, after.errors = m.errors.push e ∧ e = .arithmetic line l op r ∧ e.line = line ∧
    e.reason = s!"cannot compute {Text.ofInt l.val} {op.symbol} {Text.ofInt r.val}"

variable {settings : Settings} (m : Machine) (index line : Nat) {name lhs rhs : String} {op : Operator}

/-- A `set` whose operation has no number changes nothing but the errors. -/
theorem uncomputed_dispatch (hon : settings.setArithmetic = true)
    (hnone : op.compute? (m.context.resolve lhs).toNumber (m.context.resolve rhs).toNumber = none) :
    Uncomputed m (m.dispatch settings index (.leaf line (.set name (.binary lhs op rhs)))) line
      (m.context.resolve lhs).toNumber op (m.context.resolve rhs).toNumber := by
  have hdeclines : m.Declines settings line (.set name (.binary lhs op rhs)) _ := .arithmetic hon hnone
  rw [dispatch_of_declines hdeclines]
  exact ⟨rfl, _, rfl, rfl, rfl, rfl⟩

/-- A `set` whose operation has a number writes it into its variable, and nowhere else. -/
theorem writes_dispatch (hon : settings.setArithmetic = true) {n : Number}
    (hsome : op.compute? (m.context.resolve lhs).toNumber (m.context.resolve rhs).toNumber = some n) :
    Writes m (m.dispatch settings index (.leaf line (.set name (.binary lhs op rhs)))) name n := by
  have hassigned : (m.dispatch settings index (.leaf line (.set name (.binary lhs op rhs)))) =
      ((m.counting (.leaf line (.set name (.binary lhs op rhs)))).withContext
        (m.context.setVariable name (.number n))).next := by
    have hcounted : (m.counting (.leaf line (.set name (.binary lhs op rhs)))).context = m.context := rfl
    rw [dispatch_leaf, execute, assign]
    simp only [hcounted, hon, hsome, if_true]
  rw [hassigned]
  exact
    { value := by simp [next, goOn, withContext, Context.setVariable, Bindings.get?_set]
      others := fun other hother => by
        simp [next, goOn, withContext, Context.setVariable, Bindings.get?_set, hother.symm]
      counters := rfl
      functions := rfl
      labels := rfl
      errors := rfl }

/-- A `set` with an operator writes the exact result of the operation, which is read off the operands as
they were before, or it is refused as a whole: when the divisor is zero, and when the exact result is out
of range. -/
theorem set_exact_or_refused (hon : settings.setArithmetic = true) :
    let l := (m.context.resolve lhs).toNumber
    let r := (m.context.resolve rhs).toNumber
    let after := m.dispatch settings index (.leaf line (.set name (.binary lhs op rhs)))
    (op.Refuses l r → Uncomputed m after line l op r) ∧
      (¬ op.Refuses l r → ∃ n : Number, op.Exact l.val r.val n.val ∧ Writes m after name n) := by
  intro l r after
  rw [Operator.refuses_iff]
  refine ⟨fun hnone => m.uncomputed_dispatch index line hon hnone, fun hnot => ?_⟩
  obtain ⟨n, hsome⟩ := Option.ne_none_iff_exists'.mp hnot
  exact ⟨n, Operator.exact_of_compute? hsome, m.writes_dispatch index line hon hsome⟩

/-- The least number has no opposite, so it is refused to divide it by -1 into itself; half of it is
written. -/
theorem leastNumber_divided :
    let least : Number := ⟨-9223372036854775808, by decide, by decide⟩
    let m := (start Settings.default []).withContext (Context.empty.setVariable "x" (.number least))
    let divided (rhs : String) := m.dispatch Settings.default 0 (.leaf 2 (.set "x" (.binary "$x" .div rhs)))
    Settings.default.setArithmetic = true ∧
      Uncomputed m (divided "-1") 2 least .div ⟨-1, by decide, by decide⟩ ∧
      (divided "-1").context.values.get? "x" = some (.number least) ∧
      (divided "2").context.values.get? "x" =
        some (.number ⟨-4611686018427387904, by decide, by decide⟩) := by
  intro least m divided
  have hon : Settings.default.setArithmetic = true := rfl
  have hresolve : m.context.resolve "$x" = .number least := by decide
  have hopposite : (m.context.resolve "-1").toNumber = ⟨-1, by decide, by decide⟩ := by decide
  have htwo : (m.context.resolve "2").toNumber = ⟨2, by decide, by decide⟩ := by decide
  obtain ⟨hrefused, _⟩ := @set_exact_or_refused Settings.default m 0 2 "x" "$x" "-1" .div hon
  obtain ⟨_, hwritten⟩ := @set_exact_or_refused Settings.default m 0 2 "x" "$x" "2" .div hon
  rw [hresolve, hopposite] at hrefused
  rw [hresolve, htwo] at hwritten
  have hout := hrefused (Operator.refuses_iff.mpr (by decide))
  obtain ⟨n, hexact, hn⟩ := hwritten (mt Operator.refuses_iff.mp (by decide))
  obtain rfl : n = ⟨-4611686018427387904, by decide, by decide⟩ :=
    Ranged.ext (hexact.unique (Operator.exact_iff.mpr (by decide)))
  exact ⟨hon, hout, by rw [hout.context]; rfl, hn.value⟩

end Machine

end TouchScript
