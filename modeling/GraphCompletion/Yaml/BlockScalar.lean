import GraphCompletion.Yaml.Cursor
import GraphCompletion.Yaml.Fault
import GraphCompletion.Text.Digit

/-!
# Block scalars

A literal or folded text below its indicator. The header may give the indentation and say whether
line breaks at the end are stripped, kept, or reduced to one.
-/
namespace GraphCompletion.Yaml.BlockScalar

/-- What becomes of the line breaks at the end. -/
inductive Chomping where
  | clip
  | strip
  | keep
  deriving DecidableEq, Repr

/-- What stands behind the indicator. -/
structure Header where
  chomping : Chomping := .clip
  increment : Option Nat := none
  deriving DecidableEq, Repr

/-- A chomping mark. -/
def chomping? : Char → Option Chomping
  | '+' => some .keep
  | '-' => some .strip
  | _ => none

/-- A single digit that gives the indentation; zero is none. -/
def increment? (c : Char) : Option Nat :=
  if '0' ≤ c && c ≤ '9' then some (c.toNat - 48) else none

/-- The marks behind the indicator, in either order. -/
def header (c : Cursor) : Except Fault (Header × Cursor) := do
  let (read, c) := match c.rest with
    | [] => (({} : Header), c)
    | first :: rest =>
      match chomping? first, increment? first with
      | some chomping, _ =>
        match rest.head?.bind increment? with
        | some n => (⟨chomping, some n⟩, c.skip 2)
        | none => (⟨chomping, none⟩, c.next)
      | none, some n =>
        match rest.head?.bind chomping? with
        | some chomping => (⟨chomping, some n⟩, c.skip 2)
        | none => (⟨.clip, some n⟩, c.next)
      | none, none => ({}, c)
  if read.increment = some 0 || !spaceNext c.rest then .error .token
  else pure (read, c)

/-- The rest of the header's line: spaces, a comment, a line break. -/
def headerEnd (c : Cursor) : Except Fault Cursor :=
  let c := c.skipSpaces.skipComment
  match c.lineBreak? with
  | some (_, c) => .ok c
  | none => if c.rest.isEmpty then .ok c else .error .token

/-- Past spaces, up to a column. -/
def skipTo (column : Nat) : (fuel : Nat) → Cursor → Cursor
  | 0, c => c
  | fuel + 1, c =>
    if c.column < column && c.rest.head? == some ' ' then skipTo column fuel c.next else c

/-- Blank lines at the front, and the deepest column that their spaces reach. -/
def leadingLines : (fuel : Nat) → (deepest : Nat) → Cursor → Text × Nat × Cursor
  | 0, deepest, c => ([], deepest, c)
  | fuel + 1, deepest, c =>
    if c.rest.head? = some ' ' then
      let c := c.next
      leadingLines fuel (max deepest c.column) c
    else
      match c.lineBreak? with
      | some (first, c) =>
        let (others, deepest, c) := leadingLines fuel deepest c
        (first :: others, deepest, c)
      | none => ([], deepest, c)

/-- Line breaks with the indentation before each of them left out. -/
def blankLines (indent : Nat) : (fuel : Nat) → Cursor → Text × Cursor
  | 0, c => ([], c)
  | fuel + 1, c =>
    let c := skipTo indent indent c
    match c.lineBreak? with
    | some (first, c) =>
      let (others, c) := blankLines indent fuel c
      (first :: others, c)
    | none => ([], c)

/-- What lies between two lines of the text. -/
def joint (folded leadsSolid nextSolid : Bool) (lineBreak : Option Char) (breaks : Text) : Text :=
  match lineBreak with
  | none => []
  | some c =>
    if folded && c == '\n' && leadsSolid && nextSolid then
      if breaks.isEmpty then [' '] else []
    else [c]

/-- The next character is neither a space nor a tab. -/
def solidNext (rest : Text) : Bool :=
  match rest with
  | [] => true
  | c :: _ => !isSpaceOrTab c

/-- The lines of the text from a cursor at their indentation: the text, the last line's break and the
breaks after it. -/
def lines (folded : Bool) (indent : Nat) :
    (fuel : Nat) → (breaks : Text) → Cursor → Text × Text × Text × Cursor
  | 0, breaks, c => ([], [], breaks, c)
  | fuel + 1, breaks, c =>
    if c.column = indent && !c.rest.isEmpty then
      let leadsSolid := solidNext c.rest
      let (line, c) := c.takeWhile fun x => !isBreak x
      let (lineBreak, c) := match c.lineBreak? with
        | some (first, c) => (some first, c)
        | none => (none, c)
      let (after, c) := blankLines indent (c.rest.length + 1) c
      if c.column = indent && !c.rest.isEmpty then
        let middle := joint folded leadsSolid (solidNext c.rest) lineBreak after
        let (others, lastBreak, final, c) := lines folded indent fuel after c
        (breaks ++ line ++ middle ++ others, lastBreak, final, c)
      else (breaks ++ line, lineBreak.toList, after, c)
    else ([], [], breaks, c)

/-- The scalar that the indicator at the cursor opens, inside a block indented by `indent`. -/
def scan (folded : Bool) (indent : Int) (c : Cursor) : Except Fault (Text × Cursor) := do
  let (head, c) ← header c.next
  let c ← headerEnd c
  let least := (max (indent + 1) 1).toNat
  let (breaks, depth, c) :=
    match head.increment with
    | some n =>
      let depth := least + n - 1
      let (breaks, c) := blankLines depth (c.rest.length + 1) c
      (breaks, depth, c)
    | none =>
      let (breaks, deepest, c) := leadingLines (c.rest.length + 1) 0 c
      (breaks, max least deepest, c)
  let (text, lastBreak, final, c) := lines folded depth (c.rest.length + 1) breaks c
  pure <| match head.chomping with
    | .clip => (text ++ lastBreak, c)
    | .strip => (text, c)
    | .keep => (text ++ lastBreak ++ final, c)

end GraphCompletion.Yaml.BlockScalar
