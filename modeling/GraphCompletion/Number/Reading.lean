import GraphCompletion.Number.Shortest
import GraphCompletion.Number.Whole
import GraphCompletion.Text.Digit
import GraphCompletion.Text.Lower
import GraphCompletion.Text.Blank

/-!
# Reading numbers

Whole numbers in a base and decimal numbers with a fraction and an exponent. White space around a
number does not count, one sign may stand first, and single underscores may stand between digits.
-/
namespace GraphCompletion.Number

/-- A sign at the front, true for minus, and the rest. -/
def takeSign : Text → Bool × Text
  | '-' :: rest => (true, rest)
  | '+' :: rest => (false, rest)
  | t => (false, t)

/-- The digits of a text in a base, single underscores between them left out. -/
def digits? (base : Nat) : (afterDigit : Bool) → Text → Option (List Nat)
  | afterDigit, [] => if afterDigit then some [] else none
  | true, '_' :: rest => digits? base false rest
  | _, c :: rest => do
    let value ← Text.baseDigitValue? c
    if value < base then
      let others ← digits? base true rest
      pure (value :: others)
    else none

/-- The number with these digits. -/
def ofDigits (base : Nat) (digits : List Nat) : Nat := digits.foldl (fun n d => n * base + d) 0

/-- What follows the mark of a base (`0b`, `0o`, `0x`), which may have an underscore after it. -/
def afterBaseMark (base : Nat) (t : Text) : Text :=
  let marked : Bool :=
    match t with
    | '0' :: c :: _ =>
      (base = 2 ∧ (c = 'b' ∨ c = 'B')) ∨ (base = 8 ∧ (c = 'o' ∨ c = 'O')) ∨
        (base = 16 ∧ (c = 'x' ∨ c = 'X'))
    | _ => false
  if marked then
    match t.drop 2 with
    | '_' :: rest => rest
    | rest => rest
  else t

/-- A whole number in a base, which may bear the base's mark. -/
def int? (base : Nat) (t : Text) : Option Int := do
  let (negative, unsigned) := takeSign (Text.strip t)
  let digits ← digits? base false (afterBaseMark base unsigned)
  if base = 10 ∧ digitLimit < digits.length then none
  else
    let size : Int := ofDigits base digits
    pure (if negative then -size else size)

/-- The digits at the front, single underscores between them left out, and what follows. -/
def takeDigits (t : Text) : Option (List Nat) × Text :=
  let isPart (c : Char) : Bool := c == '_' || (Text.digitValue? c).isSome
  let part := t.takeWhile isPart
  (if part.isEmpty then some [] else digits? 10 false part, t.dropWhile isPart)

/-- An exponent mark and a signed whole number, or nothing. -/
def exponent? : Text → Option Int
  | [] => some 0
  | c :: rest =>
    if c = 'e' ∨ c = 'E' then
      let (negative, unsigned) := takeSign rest
      (digits? 10 false unsigned).map fun digits =>
        let size : Int := ofDigits 10 digits
        if negative then -size else size
    else none

/-- Digits, a point and more digits, one of the two at least, then an exponent. -/
def decimal? (t : Text) : Option Decimal := do
  let (whole, rest) := takeDigits t
  let whole ← whole
  let (fraction, rest) := match rest with
    | '.' :: rest => takeDigits rest
    | rest => (some [], rest)
  let fraction ← fraction
  if whole.isEmpty && fraction.isEmpty then none
  else
    let exponent ← exponent? rest
    pure ⟨ofDigits 10 (whole ++ fraction), exponent - fraction.length⟩

/-- A double: a decimal number, an infinity or a NaN, in any case. -/
def double? (t : Text) : Option Double := do
  let (negative, unsigned) := takeSign (Text.strip t)
  let word := Text.lower unsigned
  if word = "inf".toList ∨ word = "infinity".toList then pure (Double.infinity negative)
  else if word = "nan".toList then pure Double.nan
  else
    let decimal ← decimal? unsigned
    pure (decimal.toDouble negative)

end GraphCompletion.Number
