import GraphCompletion.Yaml.QuotedScalar
import GraphCompletion.Yaml.Token

/-!
# Anchors, tags and directives

The words that say something about a node or a document: names for reference, types, and the lines
before a document that fix its version and its tag handles.
-/
namespace GraphCompletion.Yaml.Property

/-- A name at the cursor, of one character at least. -/
def name? (c : Cursor) : Option (Text × Cursor) :=
  let (name, c) := c.takeWhile isNameChar
  if name.isEmpty then none else some (name, c)

/-- The name behind the mark of an anchor or an alias. -/
def anchor (c : Cursor) : Except Fault (Text × Cursor) :=
  match name? c.next with
  | none => .error .token
  | some (name, c) =>
    if gapNext c.rest || (c.rest.head?.any fun x => "?:,]\x7d%@\x60".toList.contains x) then
      .ok (name, c)
    else .error .token

/-- A character of a tag. -/
def isTagChar (c : Char) : Bool := c.isAlphanum || "-;/?:@&=+$,_.!~*\x27()[]%".toList.contains c

/-- The bytes of a run of escapes at the front, two hexadecimal digits each, and what follows. -/
def escapedBytes : (fuel : Nat) → Text → Except Fault (List UInt8 × Nat)
  | 0, _ => .ok ([], 0)
  | fuel + 1, t =>
    match t with
    | '%' :: rest =>
      match QuotedScalar.hexNumber? 2 rest with
      | some byte => do
        let (others, length) ← escapedBytes fuel (rest.drop 2)
        pure (UInt8.ofNat byte :: others, length + 3)
      | none => .error .token
    | _ => .ok ([], 0)

/-- The text of a tag at the cursor, its escapes decoded. -/
def tagText : (fuel : Nat) → Cursor → Except Fault (Text × Cursor)
  | 0, c => .ok ([], c)
  | fuel + 1, c =>
    match c.rest with
    | [] => .ok ([], c)
    | first :: _ =>
      if first = '%' then do
        let (bytes, length) ← escapedBytes (c.rest.length + 1) c.rest
        match String.fromUTF8? (ByteArray.mk bytes.toArray) with
        | none => .error .token
        | some decoded =>
          let (others, c) ← tagText fuel (c.skip length)
          pure (decoded.toList ++ others, c)
      else if isTagChar first then do
        let (others, c) ← tagText fuel c.next
        pure (first :: others, c)
      else .ok ([], c)

/-- The text of a tag, of one character at least. -/
def tagTextNonempty (c : Cursor) : Except Fault (Text × Cursor) := do
  let (text, after) ← tagText (c.rest.length + 1) c
  if after.index = c.index then .error .token else pure (text, after)

/-- A handle at the cursor: an exclamation mark, or a name between two. -/
def handle (c : Cursor) : Except Fault (Text × Cursor) :=
  match c.rest with
  | '!' :: rest =>
    if rest.head? = some ' ' then .ok (['!'], c.next)
    else
      let (name, after) := c.next.takeWhile isNameChar
      if after.rest.head? = some '!' then .ok (['!'] ++ name ++ ['!'], after.next)
      else .error .token
  | _ => .error .token

/-- Another exclamation mark stands in the word at the cursor. -/
def hasHandle (rest : Text) : Bool :=
  ((rest.drop 1).takeWhile fun x => !(x == ' ' || isBreak x)).contains '!'

/-- The tag at the cursor: in angle brackets, alone, or behind a handle. -/
def tag (c : Cursor) : Except Fault (Token × Cursor) := do
  let after := c.rest.drop 1
  let (token, c) ←
    if after.head? = some '<' then do
      let (suffix, c) ← tagTextNonempty (c.skip 2)
      if c.rest.head? = some '>' then pure (Token.tag none suffix, c.next) else .error .token
    else if gapNext after then pure (Token.tag none ['!'], c.next)
    else do
      let (handle, c) ← if hasHandle c.rest then handle c else pure (['!'], c.next)
      let (suffix, c) ← tagTextNonempty c
      pure (Token.tag (some handle) suffix, c)
  if spaceNext c.rest then pure (token, c) else .error .token

/-- Decimal digits at the cursor, one at least. -/
def number (c : Cursor) : Except Fault (Nat × Cursor) :=
  let (digits, c) := c.takeWhile Char.isDigit
  if digits.isEmpty then .error .token
  else .ok (digits.foldl (fun n d => n * 10 + (d.toNat - 48)) 0, c)

/-- The version that a directive asks for. -/
def version (c : Cursor) : Except Fault (Directive × Cursor) := do
  let (major, c) ← number c.skipSpaces
  if c.rest.head? ≠ some '.' then .error .token
  else
    let (minor, c) ← number c.next
    if spaceNext c.rest then pure (.version major minor, c) else .error .token

/-- The handle that a directive defines, and what it stands for. -/
def tagHandle (c : Cursor) : Except Fault (Directive × Cursor) := do
  let (handle, c) ← handle c.skipSpaces
  if c.rest.head? ≠ some ' ' then .error .token
  else
    let (stem, c) ← tagTextNonempty c.skipSpaces
    if spaceNext c.rest then pure (.tag handle stem, c) else .error .token

/-- The directive at the cursor, with the rest of its line. -/
def directive (c : Cursor) : Except Fault (Directive × Cursor) := do
  match name? c.next with
  | none => .error .token
  | some (name, c) =>
    if !spaceNext c.rest then .error .token
    else
      let (directive, c) ←
        if name = "YAML".toList then version c
        else if name = "TAG".toList then tagHandle c
        else pure (.other name, c.skipWhile fun x => !isBreak x)
      let c := c.skipSpaces.skipComment
      match c.lineBreak? with
      | some (_, c) => pure (directive, c)
      | none => if c.rest.isEmpty then pure (directive, c) else .error .token

end GraphCompletion.Yaml.Property
