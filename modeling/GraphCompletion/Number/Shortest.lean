import GraphCompletion.Number.Double
import GraphCompletion.Text.Basic

/-!
# Shortest decimals

The text of a double has the fewest digits that read back to it, and of those the nearest. For one
digit, two digits and so on up to seventeen the two neighbours of the value on the decimal grid are
tried; the first grid with a neighbour that reads back wins.
-/
namespace GraphCompletion

/-- A positive decimal: `digits · 10 ^ exponent`. -/
structure Decimal where
  digits : Nat
  exponent : Int
  deriving DecidableEq, Repr

namespace Decimal

/-- The decimal as numerator and denominator. -/
def ratio (d : Decimal) : Nat × Nat :=
  if 0 ≤ d.exponent then (d.digits * tenTo d.exponent.toNat, 1)
  else (d.digits, tenTo (-d.exponent).toNat)

/-- The double nearest to a decimal. Far beyond the range of doubles the value is not computed. -/
def toDouble (negative : Bool) (d : Decimal) : Double :=
  let places : Int := (Nat.repr d.digits).length + d.exponent
  if d.digits = 0 ∨ places < -400 then Double.nearest negative 0 1
  else if 400 < places then Double.infinity negative
  else Double.nearest negative d.ratio.1 d.ratio.2

/-- How often ten goes into a positive ratio: the power of ten of its first digit. -/
def leadingPower (numerator denominator : Nat) : Int :=
  let guess : Int :=
    ((Nat.repr numerator).length : Int) - ((Nat.repr denominator).length : Int)
  let above : Bool :=
    if 0 ≤ guess then denominator * tenTo guess.toNat ≤ numerator
    else denominator ≤ numerator * tenTo (-guess).toNat
  if above then guess else guess - 1

/-- The neighbours at or below and above a ratio on the grid of `10 ^ exponent`, nearer one first. -/
def neighbours (numerator denominator : Nat) (exponent : Int) : List Decimal :=
  let (n, d) :=
    if 0 ≤ exponent then (numerator, denominator * tenTo exponent.toNat)
    else (numerator * tenTo (-exponent).toNat, denominator)
  let below := n / d
  let twice := 2 * (n % d)
  if twice < d ∨ (twice = d ∧ below % 2 = 0) then [⟨below, exponent⟩, ⟨below + 1, exponent⟩]
  else [⟨below + 1, exponent⟩, ⟨below, exponent⟩]

/-- The shortest decimal that, with the double's sign, reads back to a finite double other than zero. -/
def shortest (d : Double) : Decimal :=
  let (numerator, denominator) := d.magnitude
  let power := leadingPower numerator denominator
  let grids : List Int := (List.range 17).map fun (extra : Nat) => power - extra
  let hit := grids.findSome? fun exponent =>
    (neighbours numerator denominator exponent).find? fun c => c.toDouble d.isNegative = d
  hit.getD ⟨0, 0⟩

/-- The decimal without zeros at the end of its digits. -/
def trim : (fuel : Nat) → Decimal → Decimal
  | 0, d => d
  | fuel + 1, d =>
    if d.digits % 10 = 0 ∧ d.digits ≠ 0 then trim fuel ⟨d.digits / 10, d.exponent + 1⟩ else d

end Decimal

/-- How a double is written. -/
structure DoubleLayout where
  /-- The power of ten of the first digit from which an exponent is written. -/
  exponentFrom : Int
  /-- The power of ten of the first digit below which an exponent is written. -/
  exponentBelow : Int
  /-- The least number of digits of an exponent. -/
  exponentDigits : Nat
  infinity : Text
  notANumber : Text

namespace Double

/-- Positional from a ten-thousandth up to ten to the sixteenth, with a point in every positional
number; otherwise a signed exponent of at least two digits. -/
def layout : DoubleLayout := ⟨16, -4, 2, "inf", "nan"⟩

/-- The digits with a point after `places` of them, zeros filled in on either side. -/
def positional (digits : Text) (places : Int) : Text :=
  if places ≤ 0 then ['0', '.'] ++ List.replicate (-places).toNat '0' ++ digits
  else if digits.length ≤ places.toNat then
    digits ++ List.replicate (places.toNat - digits.length) '0' ++ ['.', '0']
  else digits.take places.toNat ++ ['.'] ++ digits.drop places.toNat

/-- The digits with a point after the first and an exponent. -/
def scientific (l : DoubleLayout) (digits : Text) (power : Int) : Text :=
  let fraction := match digits.tail with
    | [] => []
    | rest => '.' :: rest
  let size : Text := (Nat.repr power.natAbs).toList
  digits.take 1 ++ fraction ++ ['e', if power < 0 then '-' else '+'] ++
    List.replicate (l.exponentDigits - size.length) '0' ++ size

/-- A double in the given layout. -/
def render (l : DoubleLayout) (d : Double) : Text :=
  if d.isNaN then l.notANumber
  else
    let sign : Text := if d.isNegative then ['-'] else []
    if d.isInfinite then sign ++ l.infinity
    else if d.isZero then sign ++ positional ['0'] 1
    else
      let decimal := (Decimal.shortest d).trim 400
      let digits : Text := (Nat.repr decimal.digits).toList
      let power : Int := decimal.exponent + digits.length - 1
      if l.exponentFrom ≤ power ∨ power < l.exponentBelow then sign ++ scientific l digits power
      else sign ++ positional digits (power + 1)

/-- The text of a double. -/
def toText (d : Double) : Text := d.render layout

end Double
end GraphCompletion
