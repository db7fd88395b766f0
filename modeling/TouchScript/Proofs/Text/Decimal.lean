import TouchScript.Proofs.Text.Words
import TouchScript.Text.Decimal

namespace TouchScript

namespace Chars

/-- The decimal digits of a number are ASCII digits. -/
theorem isDigit_of_mem_toDigits {n : Nat} {c : Char} (hc : c ∈ Nat.toDigits 10 n) :
    c.isDigit = true :=
  Nat.isDigit_of_mem_toDigits (by decide) (by decide) hc

/-- The decimal digits of a number are read as that number. -/
theorem natural?_toDigits (n : Nat) : natural? (Nat.toDigits 10 n) = some n := by
  have hdigits : (Nat.toDigits 10 n).all Char.isDigit = true :=
    List.all_eq_true.mpr fun c hc => isDigit_of_mem_toDigits hc
  simp [natural?, hdigits, Nat.toDigits_ne_nil, Nat.ofDigitChars_ten_toDigits]

/-- No ASCII digit is a blank. -/
theorem isBlank_of_isDigit {c : Char} (hdigit : c.isDigit = true) : isBlank c = false := by
  have hrange : 48 ≤ c.toNat ∧ c.toNat ≤ 57 := Char.isDigit_iff_toNat.mp hdigit
  simp only [isBlank, Bool.or_eq_false_iff, Bool.and_eq_false_iff, decide_eq_false_iff_not,
    beq_eq_false_iff_ne]
  omega

/-- Digits begin with no sign, so an optional sign in front of them is none. -/
theorem unsigned?_toDigits (n : Nat) : unsigned? (Nat.toDigits 10 n) = some n := by
  rw [unsigned?.eq_def]
  split
  next rest hplus =>
    have hdigit : '+'.isDigit = true := isDigit_of_mem_toDigits (n := n) (by simp [hplus])
    cases hdigit
  next => exact natural?_toDigits n

/-- The canonical form of an integer is read as that integer, with or without a sign in front. -/
theorem integer?_ofInt (n : Int) : integer? (ofInt n) = some n := by
  cases n with
  | ofNat n =>
    rw [ofInt, integer?.eq_def]
    split
    next rest hminus =>
      have hdigit : '-'.isDigit = true := isDigit_of_mem_toDigits (n := n) (by simp [hminus])
      cases hdigit
    next => simp [unsigned?_toDigits]
  | negSucc n =>
    simp only [ofInt, integer?, natural?_toDigits]
    rfl

end Chars

namespace Text

/-- The canonical form of an integer is a word. -/
theorem isToken_ofInt (n : Int) : IsToken (ofInt n) := by
  have hdigits (n : Nat) (c : Char) (hc : c ∈ Nat.toDigits 10 n) : Chars.isBlank c = false :=
    Chars.isBlank_of_isDigit (Chars.isDigit_of_mem_toDigits hc)
  cases n with
  | ofNat n =>
    refine ⟨by simp [ofInt, Chars.ofInt, Nat.toDigits_ne_nil], ?_⟩
    rw [ofInt, String.toList_ofList]
    exact hdigits n
  | negSucc n =>
    refine ⟨by simp [ofInt, Chars.ofInt], ?_⟩
    simp only [ofInt, Chars.ofInt, String.toList_ofList, List.mem_cons, forall_eq_or_imp]
    exact ⟨rfl, hdigits (n + 1)⟩

/-- A number in range is read back from its canonical form, whatever the range. -/
theorem signed?_ofInt {lo hi : Int} (n : Ranged lo hi) : signed? (ofInt n.val) = some n := by
  simp [signed?, ofInt, Chars.integer?_ofInt]

/-- A number whose range begins at zero is read without a sign. -/
theorem unsigned?_ofInt {hi : Int} (n : Ranged 0 hi) : unsigned? (ofInt n.val) = some n := by
  obtain ⟨k, hk⟩ := Int.eq_ofNat_of_zero_le n.lo_le
  have hvalue : Ranged.ofInt? (k : Int) = some n := by rw [← hk, Ranged.ofInt?_val]
  rw [unsigned?, hk]
  simp only [ofInt, String.toList_ofList]
  rw [show Chars.ofInt (k : Int) = Nat.toDigits 10 k from rfl, Chars.unsigned?_toDigits]
  exact hvalue

end Text

end TouchScript
