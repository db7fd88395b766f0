namespace TouchScript

/-- A finite binary number `± significand * 2 ^ exponent` with 53 significant bits. Numbers built by
`Binary64.ofRatio?` have a significand below `2 ^ 53`, an exponent between `-1074` and `971`, and
the least exponent that allows this, so equal values have equal fields. Every operation is exact
integer arithmetic followed by one rounding, and has no value when the result is too large. -/
structure Binary64 where
  negative : Bool
  significand : Nat
  exponent : Int
deriving DecidableEq

namespace Binary64

def zero : Binary64 := ⟨false, 0, -1074⟩

def isZero (x : Binary64) : Bool :=
  x.significand == 0

/-- The quotient rounded to the nearest integer; halves go to the even neighbour. -/
def roundedQuotient (num den : Nat) : Nat :=
  let quotient := num / den
  let twice := 2 * (num % den)
  if twice < den ∨ (twice = den ∧ quotient % 2 = 0) then quotient else quotient + 1

/-- The fraction `num / den / 2 ^ e`, as numerator and denominator. -/
def scaleDown (num den : Nat) (e : Int) : Nat × Nat :=
  (num * Nat.pow 2 (-e).toNat, den * Nat.pow 2 e.toNat)

/-- The binary exponent that leaves 53 bits before the point of `num / den`, but never less than
the least exponent there is. The first guess is at most one too small. -/
def exponentFor (num den : Nat) : Int :=
  let guess : Int := (num.log2 : Int) - den.log2 - 53
  let (n, d) := scaleDown num den guess
  let e := if n / d < Nat.pow 2 53 then guess else guess + 1
  max e (-1074)

/-- The number nearest to `num / den`; none when that is beyond the largest number. -/
def ofRatio? (negative : Bool) (num den : Nat) : Option Binary64 :=
  if num = 0 then some ⟨negative, 0, -1074⟩
  else
    let e := exponentFor num den
    let (n, d) := scaleDown num den e
    let m := roundedQuotient n d
    let (m, e) := if m = Nat.pow 2 53 then (Nat.pow 2 52, e + 1) else (m, e)
    if e ≤ 971 then some ⟨negative, m, e⟩ else none

/-- The size of a number as a fraction of natural numbers. -/
def magnitude (x : Binary64) : Nat × Nat :=
  scaleDown x.significand 1 (-x.exponent)

def mul? (x y : Binary64) : Option Binary64 :=
  let (a, b) := x.magnitude
  let (c, d) := y.magnitude
  ofRatio? (x.negative != y.negative) (a * c) (b * d)

def div? (x y : Binary64) : Option Binary64 :=
  let (a, b) := x.magnitude
  let (c, d) := y.magnitude
  ofRatio? (x.negative != y.negative) (a * d) (b * c)

/-- Whether the number has no fractional part. -/
def isWhole (x : Binary64) : Bool :=
  let (n, d) := x.magnitude
  n % d == 0

/-- The whole part of the size of a number. -/
def wholePart (x : Binary64) : Nat :=
  let (n, d) := x.magnitude
  n / d

/-- The number nearest to a power of ten. -/
def tenTo? (k : Nat) : Option Binary64 :=
  ofRatio? false (Nat.pow 10 k) 1

/-- Divides by `10 ^ k` in portions of at most `10 ^ 308`, rounding after each. A 64-bit integer is
zero after the third portion, so `portions` can be small. -/
def divideByTen (portions : Nat) (x : Binary64) (k : Nat) : Option Binary64 :=
  match portions with
  | 0 => some ⟨x.negative, 0, -1074⟩
  | portions + 1 =>
    if x.isZero then some x
    else if k ≤ 308 then (tenTo? k).bind x.div?
    else ((tenTo? 308).bind x.div?).bind fun y => divideByTen portions y (k - 308)

/-- The number written as a 64-bit integer `digits` times `10 ^ e`: the integer is rounded first,
the product or quotient with the power of ten second. A non-zero number beyond `10 ^ 308` has no
value. -/
def ofDecimal? (negative : Bool) (digits : Nat) (e : Int) : Option Binary64 :=
  (ofRatio? negative digits 1).bind fun x =>
    if x.isZero then some x
    else if e < 0 then divideByTen 4 x e.natAbs
    else if e ≤ 308 then (tenTo? e.toNat).bind x.mul?
    else none

end Binary64

end TouchScript
