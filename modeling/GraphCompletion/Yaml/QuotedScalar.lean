import GraphCompletion.Yaml.Cursor
import GraphCompletion.Yaml.Fault
import GraphCompletion.Text.Digit

/-!
# Quoted scalars

Between single quotes a doubled quote stands for one; between double quotes a backslash begins an
escape. Line breaks fold: one becomes a space, and further ones stand for themselves.
-/
namespace GraphCompletion.Yaml.QuotedScalar

/-- The characters that a single letter after a backslash stands for. -/
def escapes : List (Char × Char) := [
  ('0', '\x00'), ('a', '\x07'), ('b', '\x08'), ('t', '\t'), ('\t', '\t'), ('n', '\n'),
  ('v', '\x0b'), ('f', '\x0c'), ('r', '\r'), ('e', '\x1b'), (' ', ' '), ('"', '"'), ('\\', '\\'),
  ('/', '/'), ('N', '\x85'), ('_', '\xa0'), ('L', '\u2028'), ('P', '\u2029')]

/-- How many hexadecimal digits follow a letter after a backslash. -/
def escapeWidth? : Char → Option Nat
  | 'x' => some 2
  | 'u' => some 4
  | 'U' => some 8
  | _ => none

/-- The value of a hexadecimal digit. -/
def hexValue? (c : Char) : Option Nat :=
  if c.toNat < 128 then (Text.baseDigitValue? c).filter (· < 16) else none

/-- The number written in exactly `width` hexadecimal digits at the front. -/
def hexNumber? (width : Nat) (t : Text) : Option Nat :=
  let digits := (t.take width).filterMap hexValue?
  if digits.length = width then some (digits.foldl (fun n d => n * 16 + d) 0) else none

/-- The line breaks that come next, with the spaces before and between them left out. A document mark
at the beginning of a line is no part of a scalar. -/
def breaks : (fuel : Nat) → Cursor → Except Fault (Text × Cursor)
  | 0, c => .ok ([], c)
  | fuel + 1, c =>
    if documentMarkNext c.rest then .error .token
    else
      let c := c.skipWhile isSpaceOrTab
      match c.lineBreak? with
      | some (first, c) => do
        let (others, c) ← breaks fuel c
        pure (first :: others, c)
      | none => .ok ([], c)

/-- White space inside a scalar, folded if it spans lines. -/
def gap (c : Cursor) : Except Fault (Text × Cursor) :=
  let (spaces, c) := c.takeWhile isSpaceOrTab
  match c.lineBreak? with
  | some (first, c) => do
    let (others, c) ← breaks (c.rest.length + 1) c
    if first ≠ '\n' then pure (first :: others, c)
    else if others.isEmpty then pure ([' '], c)
    else pure (others, c)
  | none => if c.rest.isEmpty then .error .token else .ok (spaces, c)

/-- From here on a number is too large to be looked up as a character code at all. -/
def codeLimit : Nat := 0x80000000

/-- What an escape stands for; the cursor is behind the backslash. The code of half a surrogate pair is no
character's, and gives the null character. -/
def escape (c : Cursor) : Except Fault (Text × Cursor) :=
  match c.rest with
  | [] => .error .token
  | first :: rest =>
    match escapes.find? fun entry => entry.1 = first with
    | some entry => .ok ([entry.2], c.next)
    | none =>
      match escapeWidth? first with
      | some width =>
        match hexNumber? width rest with
        | some code =>
          if codeLimit ≤ code then .error .codeTooLarge
          else if 0x110000 ≤ code then .error .value
          else .ok ([Char.ofNat code], c.skip (width + 1))
        | none => .error .token
      | none =>
        match c.lineBreak? with
        | some (_, c) => breaks (c.rest.length + 1) c
        | none => .error .token

/-- The characters from the cursor to the next white space or the closing quote. -/
def solid (quote : Char) : (fuel : Nat) → Cursor → Except Fault (Text × Cursor)
  | 0, c => .ok ([], c)
  | fuel + 1, c =>
    match c.rest with
    | [] => .ok ([], c)
    | first :: rest =>
      if isSpaceOrTab first || isBreak first then .ok ([], c)
      else if first = quote then
        if quote = '\x27' && rest.head? == some quote then do
          let (others, c) ← solid quote fuel (c.skip 2)
          pure (quote :: others, c)
        else .ok ([], c)
      else if first = '\\' && quote == '"' then do
        let (escaped, c) ← escape c.next
        let (others, c) ← solid quote fuel c
        pure (escaped ++ others, c)
      else do
        let (others, c) ← solid quote fuel c.next
        pure (first :: others, c)

/-- The text from the cursor to the closing quote, and the cursor behind that. -/
def body (quote : Char) : (fuel : Nat) → Cursor → Except Fault (Text × Cursor)
  | 0, _ => .error .token
  | fuel + 1, c => do
    let (text, c) ← solid quote (c.rest.length + 1) c
    if c.rest.head? = some quote then pure (text, c.next)
    else
      let (white, c) ← gap c
      let (others, c) ← body quote fuel c
      pure (text ++ white ++ others, c)

/-- The scalar that the quote at the cursor opens. -/
def scan (c : Cursor) : Except Fault (Text × Cursor) :=
  match c.rest with
  | quote :: _ => body quote (c.rest.length + 1) c.next
  | [] => .error .token

end GraphCompletion.Yaml.QuotedScalar
