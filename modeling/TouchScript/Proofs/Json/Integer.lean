import TouchScript.Json.Decode
import TouchScript.Proofs.Json.Number

namespace TouchScript

/-- A number of so many bits has a logarithm that is not greater. -/
theorem log2_le_of_lt {n bits : Nat} (h : n < Nat.pow 2 bits) : n.log2 ≤ bits := by
  by_cases hn : n = 0
  · simp [hn]
  · exact Nat.le_of_lt ((Nat.log2_lt hn).mpr h)

namespace Binary64

/-- Rounding adds at most one, and a quotient is not greater than what is divided. -/
theorem roundedQuotient_le (num den : Nat) : roundedQuotient num den ≤ num + 1 := by
  have hquotient := Nat.div_le_self num den
  unfold roundedQuotient
  dsimp only
  split <;> omega

/-- The exponent chosen for a fraction is not greater than the logarithm of its numerator. -/
theorem exponentFor_le (num den : Nat) : exponentFor num den ≤ num.log2 := by
  simp only [exponentFor]
  split <;> omega

/-- For a whole number the exponent is far above the least one there is. -/
theorem le_exponentFor_one (num : Nat) : -53 ≤ exponentFor num 1 := by
  have hone : Nat.log2 1 = 0 := by decide
  simp only [exponentFor, hone]
  split <;> omega

/-- The quotient of a numerator of at most 250 bits is not too large, and its parts are bounded by the
numerator. -/
theorem exists_ofRatio? (negative : Bool) {num : Nat} (den : Nat) (hnum : num.log2 ≤ 250) :
    ∃ x, ofRatio? negative num den = some x ∧
      x.significand ≤ num * Nat.pow 2 (-exponentFor num den).toNat + 1 ∧ x.exponent ≤ num.log2 + 1 := by
  have hexponent := exponentFor_le num den
  have hround := roundedQuotient_le (scaleDown num den (exponentFor num den)).1
    (scaleDown num den (exponentFor num den)).2
  by_cases hzero : num = 0
  · refine ⟨⟨negative, 0, -1074⟩, by rw [ofRatio?, if_pos hzero], Nat.zero_le _, ?_⟩
    dsimp only
    omega
  · by_cases hfull : roundedQuotient (scaleDown num den (exponentFor num den)).1
        (scaleDown num den (exponentFor num den)).2 = Nat.pow 2 53
    · refine ⟨⟨negative, Nat.pow 2 52, exponentFor num den + 1⟩, ?_, ?_, by dsimp only; omega⟩
      · simp only [ofRatio?, if_neg hzero, if_pos hfull]
        rw [if_pos (by omega)]
      · rw [hfull] at hround
        exact Nat.le_trans (by change Nat.pow 2 52 ≤ Nat.pow 2 53; decide) hround
    · refine ⟨⟨negative, roundedQuotient _ _, exponentFor num den⟩, ?_, hround, by dsimp only; omega⟩
      simp only [ofRatio?, if_neg hzero, if_neg hfull]
      rw [if_pos (by omega)]

/-- An integer of at most 64 bits is a binary number once it is rounded. -/
theorem isSome_ofDecimal? (negative : Bool) {n : Nat} (hn : n < Nat.pow 2 64) :
    (ofDecimal? negative n 0).isSome = true := by
  have hlog : n.log2 ≤ 64 := log2_le_of_lt hn
  obtain ⟨x, hx, hsignificand, hexponent⟩ := exists_ofRatio? negative 1 (Nat.le_trans hlog (by decide))
  have hten : tenTo? 0 = some ⟨false, Nat.pow 2 52, -52⟩ := by decide
  rw [ofDecimal?, hx, Option.bind_some]
  by_cases hzero : x.isZero = true
  · rw [if_pos hzero]
    rfl
  · have hproduct : (x.magnitude.1 * (Nat.pow 2 52 * Nat.pow 2 0)).log2 ≤ 250 := by
      have hsize : x.magnitude.1 ≤ (Nat.pow 2 64 * Nat.pow 2 53 + 1) * Nat.pow 2 65 := by
        have hshift : (-exponentFor n 1).toNat ≤ 53 := by
          have hleast := le_exponentFor_one n
          omega
        have hbits : (-(-x.exponent)).toNat ≤ 65 := by omega
        refine Nat.mul_le_mul (Nat.le_trans hsignificand ?_) (Nat.pow_le_pow_right (by decide) hbits)
        exact Nat.add_le_add_right
          (Nat.mul_le_mul (Nat.le_of_lt hn) (Nat.pow_le_pow_right (by decide) hshift)) 1
      refine log2_le_of_lt (Nat.lt_of_le_of_lt (Nat.mul_le_mul_right _ hsize) ?_)
      decide
    obtain ⟨y, hy, _⟩ := exists_ofRatio? (x.negative != false) (x.magnitude.2 * (1 * Nat.pow 2 52)) hproduct
    rw [if_neg hzero, if_neg (by decide), if_pos (by decide), Int.toNat_zero, hten, Option.bind_some]
    exact Option.isSome_of_mem hy

end Binary64

namespace NumberText

/-- An integer is read back from its canonical form. -/
theorem toInt?_ofInt (n : Int) : (ofInt n).toInt? = some n := by
  have hsize : Nat.ofDigitChars 10 (Nat.toDigits 10 n.natAbs) 0 = n.natAbs :=
    Nat.ofDigitChars_ten_toDigits
  simp only [toInt?, ofInt, List.isEmpty_nil, and_self, if_true, hsize]
  by_cases hn : n < 0
  · have hne : n.natAbs ≠ 0 := by omega
    have hback : -(n.natAbs : Int) = n := by omega
    rw [if_pos (decide_eq_true hn), if_neg hne, hback]
  · have hback : (n.natAbs : Int) = n := by omega
    rw [if_neg (by simpa using hn), hback]

/-- More digits make a number no smaller. -/
theorem le_ofDigitChars (s : List Char) (init : Nat) : init ≤ Nat.ofDigitChars 10 s init := by
  induction s generalizing init with
  | nil => exact Nat.le_refl _
  | cons c s ih =>
    rw [Nat.ofDigitChars_cons]
    exact Nat.le_trans (by omega) (ih _)

/-- The digits of a number of at most 64 bits are all taken. -/
theorem takeDigits_eq {s : List Char} {init : Nat} (h : Nat.ofDigitChars 10 s init < Nat.pow 2 64) :
    takeDigits init s = (Nat.ofDigitChars 10 s init, []) := by
  induction s generalizing init with
  | nil => rfl
  | cons c s ih =>
    have hstep : Nat.ofDigitChars 10 (c :: s) init =
        Nat.ofDigitChars 10 s (Nat.ofDigitChars 10 [c] init) := by
      rw [Nat.ofDigitChars_cons, Nat.ofDigitChars_cons, Nat.ofDigitChars_nil]
    rw [hstep] at h ⊢
    have hlonger := Nat.lt_of_le_of_lt (le_ofDigitChars s _) h
    simp only [takeDigits]
    rw [if_pos hlonger, ih h]

/-- An integer of at most 64 bits and a sign is not too large. -/
theorem isSome_toBinary64?_ofInt {n : Int} (hn : n.natAbs < Nat.pow 2 64) :
    (ofInt n).toBinary64?.isSome = true := by
  have hsize : Nat.ofDigitChars 10 (Nat.toDigits 10 n.natAbs) 0 = n.natAbs :=
    Nat.ofDigitChars_ten_toDigits
  have htake : takeDigits 0 (Nat.toDigits 10 n.natAbs) = (n.natAbs, []) := by
    rw [takeDigits_eq (by rw [hsize]; exact hn), hsize]
  have hbinary := Binary64.isSome_ofDecimal? (decide (n < 0)) hn
  simpa [toBinary64?, ofInt, htake, takeDigits] using hbinary

end NumberText

end TouchScript
