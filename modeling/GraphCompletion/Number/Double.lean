import GraphCompletion.Number.Power

/-!
# Doubles

A double is its 64-bit word: a sign, eleven bits of exponent and fifty-two of fraction. A finite
double has an exact value `m · 2 ^ q`, and every ratio of natural numbers has a nearest double.
-/
namespace GraphCompletion

/-- A double as its 64-bit word. -/
structure Double where
  bits : UInt64
  deriving DecidableEq, Repr

namespace Double

def isNegative (d : Double) : Bool := decide (twoTo 63 ≤ d.bits.toNat)
def exponentField (d : Double) : Nat := d.bits.toNat / twoTo 52 % twoTo 11
def fractionField (d : Double) : Nat := d.bits.toNat % twoTo 52

/-- Neither infinite nor a NaN. -/
def isFinite (d : Double) : Bool := d.exponentField != 2047

def isNaN (d : Double) : Bool := d.exponentField == 2047 && d.fractionField != 0
def isInfinite (d : Double) : Bool := d.exponentField == 2047 && d.fractionField == 0

/-- The whole number `m` of a finite magnitude `m · 2 ^ q`. -/
def significand (d : Double) : Nat :=
  if d.exponentField = 0 then d.fractionField else twoTo 52 + d.fractionField

/-- The exponent `q` of a finite magnitude `m · 2 ^ q`. -/
def scale (d : Double) : Int :=
  if d.exponentField = 0 then -1074 else (d.exponentField : Int) - 1075

/-- Either zero. -/
def isZero (d : Double) : Bool := d.exponentField == 0 && d.fractionField == 0

/-- A finite number above zero. -/
def isPositiveFinite (d : Double) : Bool := d.isFinite && !d.isNegative && !d.isZero

/-- The magnitude of a finite double as numerator and denominator. -/
def magnitude (d : Double) : Nat × Nat :=
  if 0 ≤ d.scale then (d.significand * twoTo d.scale.toNat, 1)
  else (d.significand, twoTo (-d.scale).toNat)

/-- The word with these fields. -/
def ofFields (negative : Bool) (exponent fraction : Nat) : Double :=
  ⟨UInt64.ofNat ((if negative then twoTo 63 else 0) + exponent * twoTo 52 + fraction)⟩

def infinity (negative : Bool) : Double := ofFields negative 2047 0
def nan : Double := ofFields false 2047 (twoTo 51)

/-- The NaN that has a sign, which no reading of digits and no sum or product gives. -/
def signedNaN : Double := ofFields true 2047 (twoTo 51)

/-- The other sign, the same magnitude. -/
def negate (d : Double) : Double := ofFields (!d.isNegative) d.exponentField d.fractionField

/-- The nearest natural number to a ratio; a tie goes to the even one. -/
def roundHalfEven (numerator denominator : Nat) : Nat :=
  let whole := numerator / denominator
  let twice := 2 * (numerator % denominator)
  if denominator < twice ∨ (twice = denominator ∧ whole % 2 = 1) then whole + 1 else whole

/-- The exponent of the grid on which a positive ratio is rounded: the ratio has fifty-three bits
above it, or it is the finest grid there is. -/
def gridScale (numerator denominator : Nat) : Int :=
  let guess : Int := (Nat.log2 numerator : Int) - Nat.log2 denominator - 52
  let short : Bool :=
    if 0 ≤ guess then numerator < twoTo 52 * (denominator * twoTo guess.toNat)
    else numerator * twoTo (-guess).toNat < twoTo 52 * denominator
  max (if short then guess - 1 else guess) (-1074)

/-- The double nearest to a ratio, a tie to the even significand. -/
def nearest (negative : Bool) (numerator denominator : Nat) : Double :=
  if numerator = 0 then ofFields negative 0 0
  else
    let q := gridScale numerator denominator
    let m :=
      if 0 ≤ q then roundHalfEven numerator (denominator * twoTo q.toNat)
      else roundHalfEven (numerator * twoTo (-q).toNat) denominator
    let (m, q) := if m = twoTo 53 then (twoTo 52, q + 1) else (m, q)
    if 971 < q then infinity negative
    else if m < twoTo 52 then ofFields negative 0 m
    else ofFields negative (q + 1075).toNat (m - twoTo 52)

/-- The whole numbers whose nearest double is infinite begin here. -/
def wholeLimit : Nat := twoTo 1024 - twoTo 970

/-- The double nearest to a whole number, unless that is infinite. -/
def ofInt? (i : Int) : Option Double :=
  if i.natAbs < wholeLimit then some (nearest (i < 0) i.natAbs 1) else none

/-- The whole number that a finite double is, if it is one. -/
def toInt? (d : Double) : Option Int :=
  if d.isFinite then
    let (numerator, denominator) := d.magnitude
    if numerator % denominator = 0 then
      some (if d.isNegative then -(numerator / denominator : Nat) else (numerator / denominator : Nat))
    else none
  else none

/-- A finite double cut off after the point. -/
def truncate? (d : Double) : Option Int :=
  if d.isFinite then
    let (numerator, denominator) := d.magnitude
    some (if d.isNegative then -(numerator / denominator : Nat) else (numerator / denominator : Nat))
  else none

/-- The signed numerator of a finite double over the denominator of its magnitude. -/
def numerator (d : Double) : Int :=
  if d.isNegative then -(d.magnitude.1 : Int) else d.magnitude.1

/-- Sum, rounded to the nearest double. A sum of zero is negative only if both parts are. -/
def add (a b : Double) : Double :=
  if a.isNaN || b.isNaN then nan
  else if a.isInfinite then if b.isInfinite && a != b then nan else a
  else if b.isInfinite then b
  else
    let sum := a.numerator * b.magnitude.2 + b.numerator * a.magnitude.2
    let negative := if sum = 0 then a.isNegative && b.isNegative else decide (sum < 0)
    nearest negative sum.natAbs (a.magnitude.2 * b.magnitude.2)

/-- Product, rounded to the nearest double. -/
def multiply (a b : Double) : Double :=
  let negative := a.isNegative != b.isNegative
  if a.isNaN || b.isNaN then nan
  else if a.isInfinite || b.isInfinite then
    if a.isZero || b.isZero then nan else infinity negative
  else nearest negative (a.magnitude.1 * b.magnitude.1) (a.magnitude.2 * b.magnitude.2)

end Double
end GraphCompletion
