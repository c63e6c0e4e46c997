import GraphCompletion.Number.Power
import GraphCompletion.Text.Basic

/-!
# Whole numbers as text
-/
namespace GraphCompletion.Number

/-- Numbers in base ten may have this many digits. -/
def digitLimit : Nat := 4300

/-- The number has no more digits than it may have. -/
def isWritable (i : Int) : Bool := i.natAbs < tenTo digitLimit

/-- The decimal digits of a natural number. -/
def natText (n : Nat) : Text := Nat.toDigits 10 n

/-- A whole number in decimal, a minus sign before a negative one. -/
def intText (i : Int) : Text := if i < 0 then '-' :: natText i.natAbs else natText i.natAbs

end GraphCompletion.Number
