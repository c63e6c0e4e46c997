import GraphCompletion.Text.Basic

/-!
# Blank characters

The twenty-nine characters that count as white space, and what it means to strip a text of them.
The zero-width space, the byte order mark and the Mongolian vowel separator are not among them.
-/
namespace GraphCompletion.Text

/-- White space: the ASCII controls from tab to carriage return and the four separators, the next
line control, and the space separators, line separator and paragraph separator. -/
def isBlankChar (c : Char) : Bool :=
  let n := c.toNat
  (9 ≤ n && n ≤ 13) || (28 ≤ n && n ≤ 32) || n == 0x85 || n == 0xA0 || n == 0x1680 ||
    (0x2000 ≤ n && n ≤ 0x200A) || n == 0x2028 || n == 0x2029 || n == 0x202F || n == 0x205F ||
    n == 0x3000

/-- Nothing but white space. -/
def isBlank (t : Text) : Bool := t.all isBlankChar

/-- The text from its first character that is not white space. -/
def stripLeft (t : Text) : Text := t.dropWhile isBlankChar

/-- The text up to its last character that is not white space. -/
def stripRight (t : Text) : Text := (t.reverse.dropWhile isBlankChar).reverse

/-- The text without white space at either end. -/
def strip (t : Text) : Text := stripRight (stripLeft t)

/-- How many white-space characters stand first. -/
def leadingBlanks (t : Text) : Nat := (t.takeWhile isBlankChar).length

theorem stripLeft_eq_nil_iff (t : Text) : stripLeft t = [] ↔ isBlank t = true := by
  induction t with
  | nil => simp [stripLeft, isBlank]
  | cons c rest ih =>
    cases blank : isBlankChar c <;> simp_all [stripLeft, isBlank]

theorem leadingBlanks_le_length (t : Text) : leadingBlanks t ≤ t.length :=
  (List.takeWhile_sublist _).length_le

@[simp] theorem leadingBlanks_nil : leadingBlanks [] = 0 := rfl

end GraphCompletion.Text
