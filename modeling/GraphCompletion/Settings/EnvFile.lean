import GraphCompletion.Settings.Environment
import GraphCompletion.Text.Blank

/-!
# Files of variables

A file of lines `NAME=value`, with comments, quotes and an `export` that does not count. A name
without an equals sign is listed without a value, and a malformed line is passed over. Values may
refer to variables that are set already or stand further up in the file. A part of a line is read to
what it gives and what follows it, or fails at the place where the line is malformed.
-/
namespace GraphCompletion.EnvFile

/-- The text with a single line feed for each line break. -/
def unifyBreaks : Text → Text
  | '\r' :: '\n' :: rest => '\n' :: unifyBreaks rest
  | '\r' :: rest => '\n' :: unifyBreaks rest
  | c :: rest => c :: unifyBreaks rest
  | [] => []

/-- White space within a line. -/
def isSpace (c : Char) : Bool := Text.isBlankChar c && c != '\n'

/-- The text after the white space that its line goes on with. -/
def skipSpaces (t : Text) : Text := t.dropWhile isSpace

/-- The text after its first line. -/
def nextLine (t : Text) : Text := (t.dropWhile (· != '\n')).drop 1

/-- The text after an `export` and white space. -/
def afterExport (t : Text) : Text :=
  match "export".toList.isPrefixOf? t with
  | some (c :: rest) => if isSpace c then skipSpaces rest else t
  | _ => t

/-- What stands before a closing quote, and what follows the quote. A quote after a backslash does
not close, unless no other does. -/
def quoted? (quote : Char) : Text → Option (Text × Text)
  | [] => none
  | '\\' :: c :: rest =>
    if c = quote then
      match quoted? quote rest with
      | some (value, after) => some ('\\' :: quote :: value, after)
      | none => some (['\\'], rest)
    else (quoted? quote (c :: rest)).map fun found => ('\\' :: found.1, found.2)
  | c :: rest =>
    if c = quote then some ([], rest)
    else (quoted? quote rest).map fun found => (c :: found.1, found.2)

/-- The escapes of single quotes. -/
def singleEscapes : List (Char × Char) := [('\\', '\\'), ('\'', '\'')]

/-- The escapes of double quotes. -/
def doubleEscapes : List (Char × Char) :=
  singleEscapes ++ [('"', '"'), ('a', '\x07'), ('b', '\x08'), ('f', '\x0c'), ('n', '\n'),
    ('r', '\r'), ('t', '\t'), ('v', '\x0b')]

/-- A value with its escapes replaced by what they stand for. -/
def unescape (escapes : List (Char × Char)) : Text → Text
  | '\\' :: c :: rest =>
    match escapes.lookup c with
    | some meant => meant :: unescape escapes rest
    | none => '\\' :: unescape escapes (c :: rest)
  | c :: rest => c :: unescape escapes rest
  | [] => []

/-- What stands before a comment, which begins at a sharp sign after white space. -/
def beforeComment : Text → Text
  | c :: '#' :: rest => if Text.isBlankChar c then [] else c :: beforeComment ('#' :: rest)
  | c :: rest => c :: beforeComment rest
  | [] => []

/-- A name, none on a line that is a comment. -/
def name (t : Text) : Except Text (Option Text × Text) :=
  match t with
  | '#' :: _ => .ok (none, t)
  | '\'' :: rest =>
    match Text.cutAt '\'' rest with
    | (first :: others, some after) => .ok (some (first :: others), after)
    | _ => .error t
  | _ =>
    let ends (c : Char) : Bool := c == '=' || c == '#' || Text.isBlankChar c
    match t.takeWhile fun c => !ends c with
    | [] => .error t
    | found => .ok (some found, t.dropWhile fun c => !ends c)

/-- A value: quoted, or the rest of the line without a comment. -/
def value (t : Text) : Except Text (Text × Text) :=
  let closed (escapes : List (Char × Char)) : Option (Text × Text) → Except Text (Text × Text)
    | some (held, after) => .ok (unescape escapes held, after)
    | none => .error t
  match t with
  | '\'' :: rest => closed singleEscapes (quoted? '\'' rest)
  | '"' :: rest => closed doubleEscapes (quoted? '"' rest)
  | _ =>
    .ok (Text.stripRight (beforeComment (t.takeWhile (· != '\n'))), t.dropWhile (· != '\n'))

/-- The value after an equals sign, if there is one. -/
def assigned (t : Text) : Except Text (Option Text × Text) :=
  match t with
  | '=' :: rest => (value (skipSpaces rest)).map fun found => (some found.1, found.2)
  | _ => .ok (none, t)

/-- The end of a line, with a comment before it or not. -/
def lineEnd (t : Text) : Except Text (Unit × Text) :=
  let rest := match skipSpaces t with
    | '#' :: comment => comment.dropWhile (· != '\n')
    | rest => rest
  match rest with
  | [] => .ok ((), [])
  | '\n' :: after => .ok ((), after)
  | _ => .error rest

/-- One line: a name with its value if it has one, or nothing. -/
def line (t : Text) : Except Text (Option (Text × Option Text) × Text) := do
  let (named, t) ← name (afterExport t)
  let (held, t) ← assigned (skipSpaces t)
  let (_, t) ← lineEnd t
  pure (named.map fun found => (found, held), t)

/-- The entries of at most so many lines. -/
def entriesWithin : (limit : Nat) → Text → List (Text × Option Text)
  | 0, _ => []
  | limit + 1, t =>
    match Text.stripLeft t with
    | [] => []
    | t =>
      match line t with
      | .ok (entry, rest) => entry.toList ++ entriesWithin limit rest
      | .error rest => entriesWithin limit (nextLine rest)

/-- The entries of a file in order; every line but the last ends in a character of its own. -/
def entries (file : Text) : List (Text × Option Text) :=
  entriesWithin (file.length + 1) (unifyBreaks file)

/-- A reference `${name}` or `${name:-default}` at the front of a text: the name, the default, and
how many characters it takes. -/
def reference? : Text → Option (Text × Text × Nat)
  | '$' :: '\x7b' :: rest =>
    let ends (c : Char) : Bool := c == '\x7d' || c == ':'
    let found := rest.takeWhile fun c => !ends c
    match rest.dropWhile fun c => !ends c with
    | '\x7d' :: _ => some (found, [], found.length + 3)
    | ':' :: '-' :: rest =>
      match Text.cutAt '\x7d' rest with
      | (default, some _) => some (found, default, found.length + default.length + 5)
      | _ => none
    | _ => none
  | _ => none

/-- A value with its references replaced, after `skipped` more characters. -/
def expand (get : Text → Text → Text) : (skipped : Nat) → Text → Text
  | _, [] => []
  | skipped + 1, _ :: rest => expand get skipped rest
  | 0, c :: rest =>
    match reference? (c :: rest) with
    | some (found, default, length) => get found default ++ expand get (length - 1) rest
    | none => c :: expand get 0 rest

/-- The value of a reference: of a variable further up in the file, else of one in the environment,
else the default. -/
def meaning (environment : Environment) (above : List (Text × Option Text)) (name default : Text) :
    Text :=
  match Environment.get? name above with
  | some held => held.getD []
  | none => (Environment.get? name environment).getD default

/-- The variables of a file, their references replaced; the last entry of a name counts. -/
def bindings (environment : Environment) (file : Text) : List (Text × Option Text) :=
  (entries file).foldl
    (fun above entry =>
      Environment.put entry.1 (entry.2.map (expand (meaning environment above) 0)) above) []

end GraphCompletion.EnvFile
