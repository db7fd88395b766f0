import TouchScript.Binary64

namespace TouchScript

structure Decimal where
  digits : Nat
  exponent : Int
deriving DecidableEq

/-- Which of two equally near decimals is taken. -/
inductive Tie where
  | toEven
  | up
deriving DecidableEq

namespace Decimal

/-- Moves trailing zeros of the digits into the exponent, at most `bound` of them. -/
def strip (bound : Nat) (d : Decimal) : Decimal :=
  match bound with
  | 0 => d
  | bound + 1 =>
    if d.digits ≠ 0 ∧ d.digits % 10 = 0 then strip bound ⟨d.digits / 10, d.exponent + 1⟩ else d

/-- Compares `digits * 10 ^ exponent` with `n * 2 ^ e`, exactly. -/
def compareScaled (d : Decimal) (n : Nat) (e : Int) : Ordering :=
  compare (d.digits * Nat.pow 10 d.exponent.toNat * Nat.pow 2 (-e).toNat)
    (n * Nat.pow 2 e.toNat * Nat.pow 10 (-d.exponent).toNat)

end Decimal

namespace Binary64

/-- Whether the neighbour below is half as far away as the neighbour above. -/
def narrowBelow (x : Binary64) : Bool :=
  x.significand == Nat.pow 2 52 && decide (-1074 < x.exponent)

/-- Whether a decimal lies among the reals that round to the size of `x`. The two ends of that
interval are halfway to the neighbours and belong to it when the significand is even. -/
def readsBack (x : Binary64) (d : Decimal) : Bool :=
  let low := if x.narrowBelow then 4 * x.significand - 1 else 4 * x.significand - 2
  let high := 4 * x.significand + 2
  let ends := x.significand % 2 == 0
  let below := d.compareScaled low (x.exponent - 2)
  let above := d.compareScaled high (x.exponent - 2)
  (below == .gt || (ends && below == .eq)) && (above == .lt || (ends && above == .eq))

/-- The least power of ten above the size of a non-zero `x`. -/
def decimalScale (x : Binary64) : Int :=
  let bits : Int := x.significand.log2 + x.exponent
  let guess := bits * 30103 / 100000
  let isAbove (k : Int) := Decimal.compareScaled ⟨1, k⟩ x.significand x.exponent == .gt
  if isAbove guess then guess else if isAbove (guess + 1) then guess + 1 else guess + 2

/-- The neighbour of `x` on the grid of multiples of `10 ^ g` that reads back as `x`, if there is
one; of two the nearer. -/
def onGrid (tie : Tie) (x : Binary64) (g : Int) : Option Decimal :=
  let num := x.significand * Nat.pow 2 x.exponent.toNat * Nat.pow 10 (-g).toNat
  let den := Nat.pow 2 (-x.exponent).toNat * Nat.pow 10 g.toNat
  let low := num / den
  match x.readsBack ⟨low, g⟩, x.readsBack ⟨low + 1, g⟩ with
  | false, false => none
  | true, false => some ⟨low, g⟩
  | false, true => some ⟨low + 1, g⟩
  | true, true =>
    match compare (2 * num) ((2 * low + 1) * den) with
    | .lt => some ⟨low, g⟩
    | .gt => some ⟨low + 1, g⟩
    | .eq =>
      match tie with
      | .up => some ⟨low + 1, g⟩
      | .toEven => some (if low % 2 = 0 then ⟨low, g⟩ else ⟨low + 1, g⟩)

/-- The exact decimal value of the size of `x`. -/
def exactDecimal (x : Binary64) : Decimal :=
  if 0 ≤ x.exponent then ⟨x.significand * Nat.pow 2 x.exponent.toNat, 0⟩
  else ⟨x.significand * Nat.pow 5 x.exponent.natAbs, x.exponent⟩

/-- The shortest decimal that reads back as the size of `x`, and of the shortest ones the nearest.
The reals that read back as `x` form an interval around it; for one, two, … digits a neighbour of
`x` on that decimal grid is looked for in the interval, in exact integer arithmetic. -/
def shortest (tie : Tie) (x : Binary64) : Decimal :=
  if x.isZero then ⟨0, 0⟩
  else
    let scale := x.decimalScale
    let found := (List.range 17).findSome? fun (n : Nat) => x.onGrid tie (scale - n - 1)
    (found.getD x.exactDecimal).strip 20

end Binary64

namespace Decimal

def chars (d : Decimal) : List Char :=
  Nat.toDigits 10 d.digits

/-- How many digits stand before the point; negative when zeros follow it. -/
def pointAt (d : Decimal) : Int :=
  d.chars.length + d.exponent

/-- The digits before and after the point in positional notation. A whole number has none after it,
and a number below one has a zero before it. -/
def positional (d : Decimal) : List Char × List Char :=
  let digits := d.chars
  let point := d.pointAt
  if point ≤ 0 then (['0'], List.replicate point.natAbs '0' ++ digits)
  else if digits.length ≤ point.toNat then
    (digits ++ List.replicate (point.toNat - digits.length) '0', [])
  else (digits.take point.toNat, digits.drop point.toNat)

end Decimal

namespace Binary64

/-- The minus sign of a negative number, which a negative zero has too. -/
def signText (x : Binary64) : String :=
  if x.negative then "-" else ""

/-- Positional text: never an exponent, and no point in a whole number. -/
def text (x : Binary64) : String :=
  let (whole, fraction) := (x.shortest .up).positional
  let tail := if fraction.isEmpty then "" else "." ++ String.ofList fraction
  x.signText ++ String.ofList whole ++ tail

/-- Like `text`, but a whole number is written exactly and keeps one decimal. -/
def textWithPoint (x : Binary64) : String :=
  if x.isWhole then x.signText ++ String.ofList (Nat.toDigits 10 x.wholePart) ++ ".0" else x.text

end Binary64

end TouchScript
