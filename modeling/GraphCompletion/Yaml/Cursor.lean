import GraphCompletion.Text.Basic

/-!
# Cursor in a document

A place in a document: what is still unread, how many characters are behind, and the line and column
for rules about indentation. The cursor only moves forward.
-/
namespace GraphCompletion.Yaml

/-- A character that may stand in a document. -/
def isDocumentChar (c : Char) : Bool :=
  let n := c.toNat
  n == 9 || n == 10 || n == 13 || (0x20 ≤ n && n ≤ 0x7E) || n == 0x85 ||
    (0xA0 ≤ n && n ≤ 0xD7FF) || (0xE000 ≤ n && n ≤ 0xFFFD) || 0x10000 ≤ n

/-- A character that ends a line. -/
def isBreak (c : Char) : Bool :=
  c == '\n' || c == '\r' || c == '\x85' || c == '\u2028' || c == '\u2029'

/-- A space or a tab. -/
def isSpaceOrTab (c : Char) : Bool := c == ' ' || c == '\t'

/-- A character of an anchor, a tag handle or a directive's name. -/
def isNameChar (c : Char) : Bool := c.isAlphanum || c == '-' || c == '_'

/-- The end, a line break, a space or a tab comes next. -/
def gapNext : Text → Bool
  | [] => true
  | c :: _ => isSpaceOrTab c || isBreak c

/-- The end, a line break or a space comes next. -/
def spaceNext : Text → Bool
  | [] => true
  | c :: _ => c == ' ' || isBreak c

/-- The rest begins with a mark of a document's start or end, and a gap after it. -/
def documentMarkNext (rest : Text) : Bool :=
  (rest.take 3 == "---".toList || rest.take 3 == "...".toList) && gapNext (rest.drop 3)

/-- A place in a document. -/
structure Cursor where
  rest : Text
  index : Nat := 0
  line : Nat := 0
  column : Nat := 0
  deriving DecidableEq, Repr

namespace Cursor

/-- Past one character. A carriage return before a line feed ends no line, and a byte order mark
takes no column. -/
def next (c : Cursor) : Cursor :=
  match c.rest with
  | [] => c
  | first :: rest =>
    if isBreak first && !(first == '\r' && rest.head? == some '\n') then
      ⟨rest, c.index + 1, c.line + 1, 0⟩
    else if first == '\uFEFF' then ⟨rest, c.index + 1, c.line, c.column⟩
    else ⟨rest, c.index + 1, c.line, c.column + 1⟩

/-- Past so many characters. -/
def skip : Nat → Cursor → Cursor
  | 0, c => c
  | n + 1, c => skip n c.next

/-- The characters for which `p` holds, and the cursor behind them. -/
def takeWhile (p : Char → Bool) (c : Cursor) : Text × Cursor :=
  let taken := c.rest.takeWhile p
  (taken, c.skip taken.length)

/-- Past the characters for which `p` holds. -/
def skipWhile (p : Char → Bool) (c : Cursor) : Cursor := (c.takeWhile p).2

/-- Past spaces. -/
def skipSpaces (c : Cursor) : Cursor := c.skipWhile (· == ' ')

/-- The line break that comes next, if one does. The separators of Unicode stand for themselves, all
others for a line feed. -/
def lineBreak? (c : Cursor) : Option (Char × Cursor) :=
  match c.rest with
  | '\r' :: '\n' :: _ => some ('\n', c.skip 2)
  | first :: _ =>
    if first == '\u2028' || first == '\u2029' then some (first, c.next)
    else if isBreak first then some ('\n', c.next)
    else none
  | [] => none

/-- Past a comment, if one comes next. -/
def skipComment (c : Cursor) : Cursor :=
  if c.rest.head? = some '#' then c.skipWhile (fun x => !isBreak x) else c

theorem rest_next (c : Cursor) : c.next.rest = c.rest.tail := by
  unfold next
  split
  · next empty => simp [empty]
  · next held => simp only [held, List.tail_cons]; split <;> (try split) <;> rfl

theorem rest_skip (n : Nat) (c : Cursor) : (c.skip n).rest = c.rest.drop n := by
  induction n generalizing c with
  | zero => rfl
  | succ n ih => simp [skip, ih, rest_next]

end Cursor
end GraphCompletion.Yaml
