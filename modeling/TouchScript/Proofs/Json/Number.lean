import TouchScript.Json
import TouchScript.Proofs.Text.Decimal

namespace TouchScript

/-- Decimal digits that can stand before a point: at least one, and a zero in front only if it stands
alone. -/
structure IsWhole (digits : List Char) : Prop where
  ne_nil : digits ≠ []
  isDigit : ∀ c ∈ digits, c.isDigit = true
  leading : ∀ rest, digits = '0' :: rest → rest = []

/-- More digits may follow unless the first is a zero. -/
theorem IsWhole.of_append {digits : List Char} (h : IsWhole digits) (hhead : digits.head? ≠ some '0')
    {more : List Char} (hmore : ∀ c ∈ more, c.isDigit = true) : IsWhole (digits ++ more) := by
  obtain ⟨first, rest, rfl⟩ := List.exists_cons_of_ne_nil h.ne_nil
  refine ⟨by simp, ?_, ?_⟩
  · intro c hc
    exact (List.mem_append.mp hc).elim (h.isDigit c) (hmore c)
  · intro other hother
    exact absurd (congrArg some (List.cons.inj hother).1) hhead

/-- The first digits of a number can stand before a point. -/
theorem IsWhole.take {digits : List Char} (h : IsWhole digits) {k : Nat} (hk : 0 < k) :
    IsWhole (digits.take k) := by
  obtain ⟨first, rest, rfl⟩ := List.exists_cons_of_ne_nil h.ne_nil
  obtain ⟨k, rfl⟩ := Nat.exists_eq_add_one.mpr hk
  refine ⟨by simp, fun c hc => h.isDigit c (List.mem_of_mem_take hc), ?_⟩
  intro other hother
  obtain ⟨rfl, rfl⟩ := List.cons.inj hother
  rw [h.leading rest rfl, List.take_nil]

/-- The digits of a number are ASCII digits. -/
theorem isDigit_toDigits (n : Nat) : ∀ c ∈ Nat.toDigits 10 n, c.isDigit = true :=
  fun _ => Chars.isDigit_of_mem_toDigits

/-- The decimal form of a positive number does not begin with a zero. -/
theorem head?_toDigits {n : Nat} (hn : n ≠ 0) : (Nat.toDigits 10 n).head? ≠ some '0' := by
  induction n using Nat.strongRecOn with
  | _ n ih =>
    by_cases hsmall : n < 10
    · have hdigit : ∀ d < 10, d ≠ 0 → d.digitChar ≠ '0' := by decide
      rw [Nat.toDigits_of_lt_base hsmall]
      simpa using hdigit n hsmall hn
    · have hhead := ih (n / 10) (by omega) (by omega)
      obtain ⟨first, rest, hdigits⟩ :=
        List.exists_cons_of_ne_nil (Nat.toDigits_ne_nil (n := n / 10) (b := 10))
      rw [hdigits] at hhead
      rw [Nat.toDigits_of_base_le (by decide) (by omega), hdigits]
      exact hhead

/-- The digits of a number can stand before a point, since they begin with a zero only if it is
alone. -/
theorem isWhole_toDigits (n : Nat) : IsWhole (Nat.toDigits 10 n) := by
  refine ⟨Nat.toDigits_ne_nil, isDigit_toDigits n, fun rest hrest => ?_⟩
  by_cases hn : n = 0
  · subst hn
    exact (List.cons.inj hrest).2.symm
  · exact absurd (by rw [hrest]; rfl) (head?_toDigits hn)

namespace NumberText

/-- A number whose digits are as they should be. -/
structure Formed (n : NumberText) : Prop where
  whole : IsWhole n.whole
  fraction : ∀ c ∈ n.fraction, c.isDigit = true
  exponent : ∀ power ∈ n.exponent, power.2 ≠ [] ∧ ∀ c ∈ power.2, c.isDigit = true

/-- The exponent at the end of a number. -/
def power (n : NumberText) : List Char :=
  match n.exponent with
  | none => []
  | some (negative, digits) => 'e' :: (if negative then '-' else '+') :: digits

/-- The point with its digits and the exponent. -/
def tail (n : NumberText) : List Char :=
  (if n.fraction.isEmpty then [] else '.' :: n.fraction) ++ n.power

/-- A number is its sign, its whole part, and the rest. -/
theorem write_eq (n : NumberText) :
    n.write = (if n.negative then ['-'] else []) ++ (n.whole ++ n.tail) := by
  change (if n.negative then ['-'] else []) ++ n.whole ++
    (if n.fraction.isEmpty then [] else '.' :: n.fraction) ++ n.power = _
  rw [tail, List.append_assoc, List.append_assoc]

/-- The digits from the front of a text end where it goes on with something else. -/
theorem spanDigits_append {digits rest : List Char} (hdigits : ∀ c ∈ digits, c.isDigit = true)
    (hrest : ∀ c ∈ rest.head?, c.isDigit = false) : spanDigits (digits ++ rest) = (digits, rest) := by
  rw [spanDigits, List.takeWhile_append_of_pos hdigits, List.dropWhile_append_of_pos hdigits]
  cases rest with
  | nil => simp
  | cons c rest => simp [hrest c rfl]

/-- The exponent is read back with its sign. -/
theorem readExponent?_power {n : NumberText} (h : n.Formed) : readExponent? n.power = some n.exponent := by
  obtain ⟨negative, whole, fraction, exponent⟩ := n
  cases exponent with
  | none => rfl
  | some power =>
    obtain ⟨negative, digits⟩ := power
    obtain ⟨hne, hdigits⟩ := h.exponent _ rfl
    have hall : digits.all Char.isDigit = true := List.all_eq_true.mpr hdigits
    cases negative <;> simp [NumberText.power, readExponent?, hne, hall]

/-- An exponent, if there is one, begins with a letter. -/
theorem head?_power (n : NumberText) : ∀ c ∈ n.power.head?, c = 'e' := by
  unfold power
  cases n.exponent with
  | none => nofun
  | some p =>
    rintro c ⟨⟩
    rfl

/-- Behind the whole part the decimals and the exponent are read back. -/
theorem readTail?_tail {n : NumberText} (h : n.Formed) : readTail? n.negative n.whole n.tail = some n := by
  obtain ⟨negative, whole, fraction, exponent⟩ := n
  have hpower := readExponent?_power h
  have hhead := head?_power ⟨negative, whole, fraction, exponent⟩
  cases fraction with
  | nil =>
    have htail : tail ⟨negative, whole, [], exponent⟩ = power ⟨negative, whole, [], exponent⟩ := rfl
    rw [htail, readTail?, hpower]
    · rfl
    · intro s hs
      rw [hs] at hhead
      cases hhead '.' rfl
  | cons first rest =>
    have htail : tail ⟨negative, whole, first :: rest, exponent⟩ =
        '.' :: (first :: rest ++ power ⟨negative, whole, first :: rest, exponent⟩) := rfl
    have hspan := spanDigits_append h.fraction fun c hc => by rw [hhead c hc]; decide
    rw [htail, readTail?]
    dsimp only at hspan ⊢
    rw [hspan]
    simp only [List.isEmpty_cons, Bool.false_eq_true, if_false, hpower, Option.map_some]

/-- What comes behind the whole part does not begin with a digit, so the whole part ends there. -/
theorem head?_tail (n : NumberText) : ∀ c ∈ n.tail.head?, c.isDigit = false := by
  intro c hc
  unfold tail at hc
  split at hc
  · rw [head?_power n c hc]
    decide
  · cases hc
    decide

/-- After its sign a number is read by its digits. -/
theorem read?_of_sign {s body whole rest : List Char} {negative : Bool}
    (hsign : s = '-' :: body ∧ negative = true ∨ s = body ∧ body.head? ≠ some '-' ∧ negative = false)
    (hspan : spanDigits body = (whole, rest)) (hwhole : IsWhole whole) :
    read? s = readTail? negative whole rest := by
  rw [read?.eq_def]
  split
  next sign found hfound =>
    have hsame : sign = negative ∧ found = body := by
      split at hfound
      next minus =>
        cases hfound
        rcases hsign with ⟨hs, rfl⟩ | ⟨rfl, hhead, rfl⟩
        · exact ⟨rfl, (List.cons.inj hs).2⟩
        · exact absurd rfl hhead
      next hplain =>
        cases hfound
        rcases hsign with ⟨rfl, rfl⟩ | ⟨rfl, hhead, rfl⟩
        · exact absurd rfl (hplain body)
        · exact ⟨rfl, rfl⟩
    obtain ⟨rfl, rfl⟩ := hsame
    rw [hspan]
    split
    next hnil => exact absurd (congrArg Prod.fst hnil) hwhole.ne_nil
    next hzero => cases hwhole.leading _ (congrArg Prod.fst hzero)
    next hother =>
      obtain ⟨rfl, rfl⟩ := Prod.mk.inj hother
      rfl

/-- A number is read back from its text. -/
theorem read?_write {n : NumberText} (h : n.Formed) : read? n.write = some n := by
  have hspan := spanDigits_append h.whole.isDigit n.head?_tail
  have hhead : (n.whole ++ n.tail).head? ≠ some '-' := by
    obtain ⟨first, rest, hwhole⟩ := List.exists_cons_of_ne_nil h.whole.ne_nil
    rw [hwhole]
    rintro ⟨⟩
    have hdigit : '-'.isDigit = true := h.whole.isDigit '-' (by rw [hwhole]; exact .head _)
    cases hdigit
  rw [write_eq, ← readTail?_tail h]
  refine read?_of_sign ?_ hspan h.whole
  cases n.negative with
  | true => exact .inl ⟨rfl, rfl⟩
  | false => exact .inr ⟨rfl, hhead, rfl⟩

/-- The characters of a number. -/
theorem mem_write {n : NumberText} (h : n.Formed) :
    ∀ c ∈ n.write, c.isDigit = true ∨ c ∈ ['-', '+', '.', 'e'] := by
  intro c hc
  rw [write_eq, tail, power] at hc
  simp only [List.mem_append] at hc
  rcases hc with hsign | hwhole | hpoint | hpower
  · split at hsign
    · simp_all
    · cases hsign
  · exact .inl (h.whole.isDigit c hwhole)
  · split at hpoint
    · cases hpoint
    · rcases List.mem_cons.mp hpoint with rfl | hfraction
      · simp
      · exact .inl (h.fraction c hfraction)
  · cases hexponent : n.exponent with
    | none => simp [hexponent] at hpower
    | some p =>
      obtain ⟨negative, digits⟩ := p
      simp only [hexponent, List.mem_cons] at hpower
      rcases hpower with rfl | rfl | hdigit
      · simp
      · cases negative <;> simp
      · exact .inl ((h.exponent _ hexponent).2 c hdigit)

/-- No number is written as nothing. -/
theorem write_ne_nil {n : NumberText} (h : n.Formed) : n.write ≠ [] := by
  rw [write_eq]
  simp [h.whole.ne_nil]

/-- Integers are written as JSON wants numbers to be. -/
theorem formed_ofInt (n : Int) : (ofInt n).Formed :=
  ⟨isWhole_toDigits _, nofun, nofun⟩

end NumberText

namespace Decimal

/-- Moving zeros into the exponent leaves a decimal that is not zero as it is. -/
theorem digits_strip {d : Decimal} (hd : d.digits ≠ 0) (bound : Nat) : (strip bound d).digits ≠ 0 := by
  induction bound generalizing d with
  | zero => exact hd
  | succ bound ih =>
    rw [strip]
    split
    next hzero =>
      refine ih ?_
      dsimp only
      omega
    next => exact hd

/-- The digits before the point are as they should be, those after it are digits. -/
theorem formed_positional {d : Decimal} (hd : d.digits ≠ 0) :
    IsWhole d.positional.1 ∧ ∀ c ∈ d.positional.2, c.isDigit = true := by
  have hzeros (k : Nat) (c : Char) (hc : c ∈ List.replicate k '0') : c.isDigit = true := by
    rw [List.eq_of_mem_replicate hc]
    decide
  have hchars : IsWhole d.chars := isWhole_toDigits _
  have hhead : d.chars.head? ≠ some '0' := head?_toDigits hd
  simp only [positional]
  split
  · refine ⟨isWhole_toDigits 0, fun c hc => ?_⟩
    exact (List.mem_append.mp hc).elim (hzeros _ c) (hchars.isDigit c)
  · split
    · exact ⟨hchars.of_append hhead (hzeros _), nofun⟩
    · exact ⟨hchars.take (by omega), fun c hc => hchars.isDigit c (List.mem_of_mem_drop hc)⟩

end Decimal

namespace Binary64

variable {x : Binary64}

/-- Zero reads back as no other number. -/
theorem readsBack_zero (hx : x.significand ≠ 0) (g : Int) : x.readsBack ⟨0, g⟩ = false := by
  have hbelow (low : Nat) (hlow : 0 < low) : Decimal.compareScaled ⟨0, g⟩ low (x.exponent - 2) = .lt := by
    have hpos : 0 < low * Nat.pow 2 (x.exponent - 2).toNat * Nat.pow 10 (-g).toNat := by
      have htwo : 0 < Nat.pow 2 (x.exponent - 2).toNat := Nat.pow_pos (by decide)
      have hten : 0 < Nat.pow 10 (-g).toNat := Nat.pow_pos (by decide)
      exact Nat.mul_pos (Nat.mul_pos hlow htwo) hten
    rw [Decimal.compareScaled, Nat.zero_mul, Nat.zero_mul]
    exact Nat.compare_eq_lt.mpr hpos
  have hlow : 0 < if x.narrowBelow then 4 * x.significand - 1 else 4 * x.significand - 2 := by
    split <;> omega
  simp [readsBack, hbelow _ hlow]

/-- A decimal that stands for a number is not zero if the number is not. -/
theorem digits_onGrid (hx : x.significand ≠ 0) {tie : Tie} {g : Int} {d : Decimal}
    (hd : x.onGrid tie g = some d) : d.digits ≠ 0 := by
  have hlow (low : Nat) (hback : x.readsBack ⟨low, g⟩ = true) : low ≠ 0 := by
    rintro rfl
    rw [readsBack_zero hx] at hback
    cases hback
  simp only [onGrid] at hd
  split at hd
  next => cases hd
  next hback _ =>
    cases hd
    exact hlow _ hback
  next =>
    cases hd
    exact Nat.succ_ne_zero _
  next hback _ =>
    split at hd
    · cases hd
      exact hlow _ hback
    · cases hd
      exact Nat.succ_ne_zero _
    · cases tie with
      | up =>
        cases hd
        exact Nat.succ_ne_zero _
      | toEven =>
        dsimp only at hd
        split at hd
        · cases hd
          exact hlow _ hback
        · cases hd
          exact Nat.succ_ne_zero _

/-- The exact decimal of a number is not zero if the number is not. -/
theorem digits_exactDecimal (hx : x.significand ≠ 0) : x.exactDecimal.digits ≠ 0 := by
  unfold exactDecimal
  split
  · exact Nat.mul_ne_zero hx (Nat.pos_iff_ne_zero.mp (Nat.pow_pos (by decide)))
  · exact Nat.mul_ne_zero hx (Nat.pos_iff_ne_zero.mp (Nat.pow_pos (by decide)))

/-- The shortest decimal of a number is not zero if the number is not. -/
theorem digits_shortest (hx : x.isZero = false) (tie : Tie) : (x.shortest tie).digits ≠ 0 := by
  have hsignificand : x.significand ≠ 0 := by simpa [isZero] using hx
  rw [shortest, hx, if_neg Bool.false_ne_true]
  refine Decimal.digits_strip ?_ 20
  cases hfound : (List.range 17).findSome? fun (n : Nat) => x.onGrid tie (x.decimalScale - n - 1) with
  | none => exact digits_exactDecimal hsignificand
  | some d =>
    obtain ⟨n, _, hd⟩ := List.exists_of_findSome?_eq_some hfound
    exact digits_onGrid hsignificand hd

end Binary64

/-- Binary numbers are written as JSON wants numbers to be, in each of the four layouts. -/
theorem NumberText.formed_ofBinary64 (x : Binary64) : (ofBinary64 x).Formed := by
  cases hzero : x.isZero with
  | true =>
    have hshortest : x.shortest .toEven = ⟨0, 0⟩ := by rw [Binary64.shortest, hzero, if_pos rfl]
    have hpositional : Decimal.positional ⟨0, 0⟩ = (['0'], []) := by decide
    simp only [ofBinary64, hzero, hshortest, hpositional, true_or, if_true]
    exact ⟨isWhole_toDigits 0, by simp, nofun⟩
  | false =>
    have hdigits := Binary64.digits_shortest hzero .toEven
    simp only [ofBinary64, hzero, Bool.false_eq_true, false_or]
    split
    · obtain ⟨hwhole, hfraction⟩ := Decimal.formed_positional hdigits
      refine ⟨hwhole, ?_, nofun⟩
      dsimp only
      split
      · simp
      · exact hfraction
    · have hchars : IsWhole (x.shortest .toEven).chars := isWhole_toDigits _
      refine ⟨hchars.take Nat.zero_lt_one, fun c hc => hchars.isDigit c (List.mem_of_mem_drop hc), ?_⟩
      rintro power ⟨⟩
      exact ⟨Nat.toDigits_ne_nil, isDigit_toDigits _⟩

end TouchScript
