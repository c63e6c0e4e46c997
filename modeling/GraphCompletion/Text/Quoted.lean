import GraphCompletion.Text.Printable
import GraphCompletion.Text.Basic

/-!
# Quoted texts

How a text is shown inside a list or a mapping: between single quotes, or between double quotes when
it holds a single quote and no double one. A backslash, the quote in use and whatever is not
printable are escaped, the last by number in two, four or eight hexadecimal digits.
-/
namespace GraphCompletion.Text

/-- The lower-case hexadecimal digit of a number below sixteen. -/
def hexDigit (n : Nat) : Char := if n < 10 then Char.ofNat (48 + n) else Char.ofNat (87 + n)

/-- The number in hexadecimal with exactly `width` digits. -/
def hex : (width : Nat) → Nat → Text
  | 0, _ => []
  | width + 1, n => hex width (n / 16) ++ [hexDigit (n % 16)]

/-- The quote that surrounds a text. -/
def quoteFor (t : Text) : Char := if '\x27' ∈ t ∧ '"' ∉ t then '"' else '\x27'

/-- One character as it stands between quotes. -/
def quotedChar (quote c : Char) : Text :=
  if c = quote ∨ c = '\\' then ['\\', c]
  else if c = '\n' then ['\\', 'n']
  else if c = '\r' then ['\\', 'r']
  else if c = '\t' then ['\\', 't']
  else if isPrintable c then [c]
  else if c.toNat < 0x100 then ['\\', 'x'] ++ hex 2 c.toNat
  else if c.toNat < 0x10000 then ['\\', 'u'] ++ hex 4 c.toNat
  else ['\\', 'U'] ++ hex 8 c.toNat

/-- The text between quotes. -/
def quoted (t : Text) : Text :=
  let quote := quoteFor t
  quote :: t.flatMap (quotedChar quote) ++ [quote]

end GraphCompletion.Text
