import GraphCompletion.Text.Blank

/-!
# Tags

A tag names the type of a node. A scalar without one gets its type from its text: the forms of null,
truth values, whole and broken numbers, timestamps, and the signs of a merge and of a default value
are told from plain texts.
-/
namespace GraphCompletion.Yaml.Tag

/-- The stem of the tags that every document knows. -/
def stem : Text := "tag:yaml.org,2002:"

def null : Text := stem ++ "null"
def bool : Text := stem ++ "bool"
def int : Text := stem ++ "int"
def float : Text := stem ++ "float"
def binary : Text := stem ++ "binary"
def timestamp : Text := stem ++ "timestamp"
def omap : Text := stem ++ "omap"
def pairs : Text := stem ++ "pairs"
def set : Text := stem ++ "set"
def str : Text := stem ++ "str"
def seq : Text := stem ++ "seq"
def map : Text := stem ++ "map"
def merge : Text := stem ++ "merge"
def value : Text := stem ++ "value"

/-- The handles that need no directive. -/
def handles : List (Text × Text) := [("!", "!"), ("!!", stem)]

/-- The words for truth values, in their three spellings each. -/
def boolWords : List Text := [
  "yes", "Yes", "YES", "no", "No", "NO", "true", "True", "TRUE", "false", "False", "FALSE",
  "on", "On", "ON", "off", "Off", "OFF"]

/-- The words for null. -/
def nullWords : List Text := ["~", "null", "Null", "NULL", ""]

def isDigit (c : Char) : Bool := '0' ≤ c && c ≤ '9'
def isDigitOrUnderscore (c : Char) : Bool := isDigit c || c == '_'

/-- What follows a sign at the front, or the text itself. -/
def unsigned : Text → Text
  | '-' :: rest => rest
  | '+' :: rest => rest
  | t => t

/-- What follows the digits and underscores of a number at the front, if a digit comes first. -/
def afterDigits? : Text → Option Text
  | [] => none
  | c :: rest => if isDigit c then some (rest.dropWhile isDigitOrUnderscore) else none

/-- A colon and a number below sixty, once or more. -/
def sixtiethPlaces : (fuel : Nat) → Text → Option Text
  | 0, _ => none
  | fuel + 1, t =>
    let after := match t with
      | ':' :: a :: b :: rest =>
        if '0' ≤ a && a ≤ '5' && isDigit b then some rest
        else if isDigit a then some (b :: rest) else none
      | ':' :: [a] => if isDigit a then some [] else none
      | _ => none
    after.map fun rest => (sixtiethPlaces fuel rest).getD rest

/-- An exponent with a sign, or nothing. -/
def isExponent : Text → Bool
  | [] => true
  | e :: sign :: d :: rest =>
    (e == 'e' || e == 'E') && (sign == '-' || sign == '+') && isDigit d && rest.all isDigit
  | _ => false

/-- A whole number: binary, octal, hexadecimal, decimal or in base sixty. -/
def isInt (t : Text) : Bool :=
  let t := unsigned t
  match t with
  | '0' :: 'b' :: d :: rest =>
    (d :: rest).all fun c => c == '0' || c == '1' || c == '_'
  | '0' :: 'x' :: d :: rest =>
    (d :: rest).all fun c =>
      isDigitOrUnderscore c || ('a' ≤ c && c ≤ 'f') || ('A' ≤ c && c ≤ 'F')
  | '0' :: rest => rest.all fun c => ('0' ≤ c && c ≤ '7') || c == '_'
  | c :: rest =>
    isDigit c &&
      match rest.dropWhile isDigitOrUnderscore with
      | [] => true
      | places => (sixtiethPlaces places.length places) == some []
  | [] => false

/-- A broken number: with a point, in base sixty with a point, an infinity, or no number. -/
def isFloat (t : Text) : Bool :=
  let afterPoint (rest : Text) : Bool := isExponent (rest.dropWhile isDigitOrUnderscore)
  let positional : Bool :=
    match afterDigits? (unsigned t) with
    | some ('.' :: rest) => afterPoint rest
    | some places =>
      match sixtiethPlaces places.length places with
      | some ('.' :: rest) => rest.all isDigitOrUnderscore
      | _ => false
    | none => false
  let pointFirst : Bool :=
    match t with
    | '.' :: d :: rest => isDigit d && afterPoint rest
    | _ => false
  positional || pointFirst ||
    [".inf".toList, ".Inf".toList, ".INF".toList].contains (unsigned t) ||
    [".nan".toList, ".NaN".toList, ".NAN".toList].contains t

/-- Between `least` and `most` digits at the front, as many as there are, and what follows. -/
def takeDigits? (least most : Nat) (t : Text) : Option (Text × Text) :=
  let digits := (t.take most).takeWhile isDigit
  if least ≤ digits.length then some (digits, t.drop digits.length) else none

/-- What follows a given character at the front. -/
def past? (wanted : Char) : Text → Option Text
  | [] => none
  | c :: rest => if c = wanted then some rest else none

/-- The parts of a timestamp, as their digits. -/
structure TimestampParts where
  year : Text
  month : Text
  day : Text
  /-- Hour, minute and second, with the digits after a point. -/
  time : Option (Text × Text × Text × Text) := none
  /-- Whether behind, hours and minutes, both empty for universal time. -/
  zone : Option (Bool × Text × Text) := none
  deriving DecidableEq, Repr

/-- The zone at the end of a timestamp, white space before it, or nothing. -/
def zone? (t : Text) : Option (Option (Bool × Text × Text)) :=
  match t with
  | [] => some none
  | _ =>
    match t.dropWhile fun c => c == ' ' || c == '\t' with
    | ['Z'] => some (some (false, [], []))
    | sign :: rest =>
      if sign == '-' || sign == '+' then do
        let (hours, rest) ← takeDigits? 1 2 rest
        match rest with
        | [] => some (some (sign == '-', hours, []))
        | ':' :: rest => do
          let (minutes, rest) ← takeDigits? 2 2 rest
          if rest.isEmpty then some (some (sign == '-', hours, minutes)) else none
        | _ => none
      else none
    | [] => none

/-- The time of day behind a date, and the zone. -/
def time? (t : Text) : Option ((Text × Text × Text × Text) × Option (Bool × Text × Text)) := do
  let t ← match t with
    | c :: rest =>
      if c == 'T' || c == 't' then some rest
      else if c == ' ' || c == '\t' then some (rest.dropWhile fun c => c == ' ' || c == '\t')
      else none
    | [] => none
  let (hour, t) ← takeDigits? 1 2 t
  let t ← past? ':' t
  let (minute, t) ← takeDigits? 2 2 t
  let t ← past? ':' t
  let (second, t) ← takeDigits? 2 2 t
  let (fraction, t) := match t with
    | '.' :: rest => (rest.takeWhile isDigit, rest.dropWhile isDigit)
    | t => ([], t)
  let zone ← zone? t
  pure ((hour, minute, second, fraction), zone)

/-- The parts of a timestamp: a date, or a date with a time. -/
def timestampParts? (t : Text) : Option TimestampParts := do
  let (year, t) ← takeDigits? 4 4 t
  let t ← past? '-' t
  let (month, t) ← takeDigits? 1 2 t
  let t ← past? '-' t
  let (day, t) ← takeDigits? 1 2 t
  if t.isEmpty then some { year, month, day }
  else
    let (time, zone) ← time? t
    pure { year, month, day, time := some time, zone }

/-- A timestamp as plain text: a date alone has two digits for month and day. -/
def isTimestamp (t : Text) : Bool :=
  match timestampParts? t with
  | none => false
  | some parts => parts.time.isSome || (parts.month.length == 2 && parts.day.length == 2)

/-- The tag of a plain text. -/
def ofPlainLine (t : Text) : Text :=
  if boolWords.contains t then bool
  else if isFloat t then float
  else if isInt t then int
  else if t = "<<".toList then merge
  else if nullWords.contains t then null
  else if isTimestamp t then timestamp
  else if t = "=".toList then value
  else str

/-- The tag of a plain text; a line break at its end does not count, unless it is all there is. -/
def ofPlain (t : Text) : Text :=
  if t.length ≤ 1 then ofPlainLine t else ofPlainLine (Text.withoutLast '\n' t)

end GraphCompletion.Yaml.Tag
