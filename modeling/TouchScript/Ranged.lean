namespace TouchScript

/-- An integer between `lo` and `hi`, both included. Every number of a script has such a fixed
range, and a computed integer can enter it only through `Ranged.ofInt?`, which refuses what does not
fit. -/
structure Ranged (lo hi : Int) where
  val : Int
  lo_le : lo ≤ val
  le_hi : val ≤ hi
deriving DecidableEq

namespace Ranged

variable {lo hi : Int}

/-- The number `n`, if it is in range. -/
def ofInt? (n : Int) : Option (Ranged lo hi) :=
  if h : lo ≤ n ∧ n ≤ hi then some ⟨n, h.1, h.2⟩ else none

@[ext]
theorem ext {a b : Ranged lo hi} (h : a.val = b.val) : a = b := by
  cases a
  cases b
  simp_all

@[simp]
theorem ofInt?_val (a : Ranged lo hi) : ofInt? a.val = some a := by
  simp [ofInt?, a.lo_le, a.le_hi]

/-- Reading an integer succeeds exactly on the integers in range, and keeps the value. -/
theorem ofInt?_eq_some_iff {n : Int} {a : Ranged lo hi} : ofInt? n = some a ↔ a.val = n := by
  constructor
  · intro h
    unfold ofInt? at h
    split at h
    · cases h
      rfl
    · cases h
  · rintro rfl
    exact ofInt?_val a

/-- Reading an integer fails exactly on the integers out of range. -/
theorem ofInt?_eq_none_iff {n : Int} : (ofInt? n : Option (Ranged lo hi)) = none ↔ n < lo ∨ hi < n := by
  unfold ofInt?
  split
  next hin =>
    simp only [reduceCtorEq, false_iff]
    omega
  next hout =>
    simp only [true_iff]
    omega

end Ranged

/-- A screen coordinate or distance in pixels: a 32-bit signed integer. -/
abbrev Coordinate := Ranged (-2147483648) 2147483647

/-- A whole number a script computes with: a 64-bit signed integer. -/
abbrev Number := Ranged (-9223372036854775808) 9223372036854775807

/-- A duration in milliseconds: a 64-bit unsigned integer. -/
abbrev Millis := Ranged 0 18446744073709551615

/-- How often a `repeat` block runs: a 32-bit unsigned integer. -/
abbrev PassCount := Ranged 0 4294967295

/-- The number zero, which a missing variable or counter reads as. -/
def Number.zero : Number := ⟨0, by decide, by decide⟩

def Coordinate.toNumber (c : Coordinate) : Number :=
  ⟨c.val, by have := c.lo_le; omega, by have := c.le_hi; omega⟩

/-- The duration a script's number stands for: negative numbers count as zero. -/
def Number.toMillis (n : Number) : Millis :=
  ⟨max 0 n.val, by omega, by have := n.le_hi; omega⟩

def Millis.toNat (ms : Millis) : Nat :=
  ms.val.toNat

end TouchScript
