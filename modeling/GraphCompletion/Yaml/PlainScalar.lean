import GraphCompletion.Yaml.Cursor

/-!
# Plain scalars

A scalar without quotes runs up to a colon or a comment set off by a space, and in a flow collection
up to an indicator. It may go on over lines that are indented more than the block around it.
-/
namespace GraphCompletion.Yaml.PlainScalar

/-- A scalar read so far, and whether a line break came last. -/
structure Reading where
  text : Text
  cursor : Cursor
  broken : Bool
  deriving Repr

/-- The characters that a flow collection sets a scalar off by. -/
def isFlowIndicator (c : Char) : Bool := ",?[]\x7b\x7d".toList.contains c

/-- A colon ends the scalar before this. -/
def colonEnds (inFlow : Bool) (rest : Text) : Bool :=
  gapNext rest || (inFlow && (rest.head?.any fun c => ",[]\x7b\x7d".toList.contains c))

/-- How many characters at the front belong to the scalar. -/
def length (inFlow : Bool) : Text → Nat
  | [] => 0
  | c :: rest =>
    if isSpaceOrTab c || isBreak c || (c == ':' && colonEnds inFlow rest) ||
        (inFlow && isFlowIndicator c) then 0
    else length inFlow rest + 1

/-- Line breaks with spaces between them, up to a document mark. -/
def breaks : (fuel : Nat) → Cursor → Option (Text × Cursor)
  | 0, c => some ([], c)
  | fuel + 1, c =>
    let c := c.skipSpaces
    match c.lineBreak? with
    | some (first, c) =>
      if documentMarkNext c.rest then none
      else (breaks fuel c).map fun (others, c) => (first :: others, c)
    | none => some ([], c)

/-- The gap after a part of the scalar, folded if it spans lines. An empty gap ends the scalar, and so
does a document mark. -/
def gap (c : Cursor) : Text × Bool × Cursor :=
  let (spaces, c) := c.takeWhile (· == ' ')
  match c.lineBreak? with
  | some (first, c) =>
    if documentMarkNext c.rest then ([], true, c)
    else
      match breaks (c.rest.length + 1) c with
      | none => ([], true, c)
      | some (others, c) =>
        if first ≠ '\n' then (first :: others, true, c)
        else if others.isEmpty then ([' '], true, c)
        else (others, true, c)
  | none => (spaces, false, c)

/-- Reads on from a part of the scalar and the gap after it. -/
def extend (inFlow : Bool) (indent : Int) : (fuel : Nat) → (white : Text) → Reading → Reading
  | 0, _, r => r
  | fuel + 1, white, r =>
    let n := length inFlow r.cursor.rest
    if r.cursor.rest.head? = some '#' || n = 0 then r
    else
      let text := r.text ++ white ++ r.cursor.rest.take n
      let (white, broken, c) := gap (r.cursor.skip n)
      let read := ⟨text, c, broken⟩
      if white.isEmpty || c.rest.head? = some '#' || (!inFlow && (c.column : Int) < indent) then read
      else extend inFlow indent fuel white read

/-- The scalar at the cursor, inside a block indented by `indent`. -/
def scan (inFlow : Bool) (indent : Int) (c : Cursor) : Reading :=
  extend inFlow (indent + 1) (c.rest.length + 1) [] ⟨[], c, false⟩

/-- A plain scalar can begin here. -/
def canStart (inFlow : Bool) (rest : Text) : Bool :=
  match rest with
  | [] => false
  | c :: after =>
    !(isSpaceOrTab c || isBreak c || "-?:,[]\x7b\x7d#&*!|>\x27\"%@\x60".toList.contains c) ||
      (!gapNext after && (c == '-' || (!inFlow && (c == '?' || c == ':'))))

end GraphCompletion.Yaml.PlainScalar
