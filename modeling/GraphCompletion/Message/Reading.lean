import GraphCompletion.Datum.Basic
import GraphCompletion.Message.Checked
import GraphCompletion.Text.Blank
import GraphCompletion.Text.Lower

/-!
# Reading the parts of messages

Texts must be texts. Whole numbers may also come as truth values, as floats without a fraction and as
decimal texts; truth values as zero and one and in a few words. A missing part takes its default
where it has one, and parts that a message does not know are passed over.
-/
namespace GraphCompletion.Message

/-- The fields of a message. -/
abbrev Fields := List (Text × Datum)

/-- A text. -/
def readText : Datum → Checked Text
  | .text t => .value t
  | _ => .fail .notText

/-- Whether white space around a number is passed over: all white space but four separators. -/
def isPadding (c : Char) : Bool := Text.isBlankChar c && !(28 ≤ c.toNat && c.toNat ≤ 31)

/-- The text without padding at either end. -/
def trimmed (t : Text) : Text :=
  ((t.dropWhile isPadding).reverse.dropWhile isPadding).reverse

/-- A zero at the front of a number, or an underscore among such zeros. -/
def isFiller (c : Char) : Bool := c == '0' || c == '_'

/-- A number without zeros, and without underscores among them, before its first other digit; the last
one stays where a point or nothing follows. A minus sign keeps what follows it as it is, and nothing
but a digit may stand where a number without one begins. -/
def withoutLeadingZeros (t : Text) : Option Text :=
  match t with
  | '0' :: rest =>
    let last := ((rest.takeWhile isFiller).getLast?).getD '0'
    match rest.dropWhile isFiller with
    | [] => some [last]
    | c :: after =>
      if c = '.' then some (last :: c :: after) else if c.isDigit then some (c :: after) else none
  | c :: _ => if c = '-' || c.isDigit then some t else none
  | [] => none

/-- A number without a point that only zeros follow. -/
def withoutZeroFraction (t : Text) : Text :=
  match Text.cutAt '.' t with
  | (whole, some fraction) => if fraction.all (· == '0') then whole else t
  | _ => t

/-- Two underscores stand side by side. -/
def hasDoubleUnderscore : Text → Bool
  | '_' :: '_' :: _ => true
  | _ :: rest => hasDoubleUnderscore rest
  | [] => false

/-- A number without its underscores, if they stand singly and inside it. -/
def withoutUnderscores (t : Text) : Text :=
  if t.head? = some '_' || t.getLast? = some '_' || hasDoubleUnderscore t then t
  else t.filter (· != '_')

/-- Decimal digits without needless zeros, a minus sign before them if the number is negative. -/
def plainWhole? (t : Text) : Option Int :=
  let (negative, digits) := match t with
    | '-' :: rest => (true, rest)
    | rest => (false, rest)
  if digits.isEmpty || !digits.all Char.isDigit then none
  else if digits.head? = some '0' && digits.length != 1 then none
  else
    let size : Int := digits.foldl (fun n c => n * 10 + (c.toNat - 48)) 0
    some (if negative then -size else size)

/-- A text may be this long to be read as a number. -/
def wholeLength : Nat := 4300

/-- A whole number from a text: a sign, digits with single underscores among them, and possibly a
point with zeros after it. -/
def wholeOfText (t : Text) : Checked Int :=
  let unsigned := match trimmed t with
    | '+' :: '-' :: _ => none
    | '+' :: rest => withoutLeadingZeros rest
    | rest => withoutLeadingZeros rest
  match unsigned with
  | none => .fail .unreadableWhole
  | some number =>
    let digits := withoutUnderscores (withoutZeroFraction number)
    if wholeLength < digits.length then .fail .wholeTooLong
    else match plainWhole? digits with
      | some i => .value i
      | none => .fail .unreadableWhole

/-- A whole number from a float without a fraction, less than two to the sixty-third in size. -/
def wholeOfFloat (d : Double) : Checked Int :=
  if !d.isFinite then .fail .notFinite
  else match d.toInt? with
    | none => .fail .fractional
    | some i => if i.natAbs < twoTo 63 then .value i else .fail .wholeTooLong

/-- A whole number. -/
def readWhole : Datum → Checked Int
  | .int i => .value i
  | .bool b => .value (if b then 1 else 0)
  | .float d => wholeOfFloat d
  | .text t => wholeOfText t
  | _ => .fail .notWhole

/-- A whole number from a limit on. -/
def readWholeFrom (limit : Int) (value : Datum) : Checked Int :=
  (readWhole value).andThen fun i => if limit ≤ i then .value i else .fail .belowLimit

def yesWords : List Text := ["1", "true", "t", "yes", "y", "on"]
def noWords : List Text := ["0", "false", "f", "no", "n", "off"]

/-- A truth value from a whole number. -/
def truthOfWhole (i : Int) : Checked Bool :=
  if i = 0 then .value false else if i = 1 then .value true else .fail .unreadableTruth

/-- A truth value. -/
def readTruth : Datum → Checked Bool
  | .bool b => .value b
  | .int i => if -(twoTo 63 : Int) ≤ i && i < twoTo 63 then truthOfWhole i else .fail .notTruth
  | .float d =>
    match wholeOfFloat d with
    | .value i => truthOfWhole i
    | .issues _ => .fail .notTruth
  | .text t =>
    let word := Text.lower t
    if yesWords.contains word then .value true
    else if noWords.contains word then .value false
    else .fail .unreadableTruth
  | _ => .fail .notTruth

/-- A list of parts. -/
def readList {α : Type} (read : Datum → Checked α) : Datum → Checked (List α)
  | .list items => Checked.items read 0 items
  | _ => .fail .notList

/-- A mapping with any fields. -/
def readMapping : Datum → Checked Fields
  | .mapping fields => .value fields
  | _ => .fail .notMapping

/-- A message in a message. -/
def readRecord {α : Type} (read : Fields → Checked α) : Datum → Checked α
  | .mapping fields => read fields
  | _ => .fail .notRecord

/-- A part that may be null. -/
def readOptional {α : Type} (read : Datum → Checked α) : Datum → Checked (Option α)
  | .null => .value none
  | value => (read value).map some

/-- One of the values of a type, by its name. -/
def readNamed {α : Type} (name : α → Text) (values : List α) : Datum → Checked α
  | .text t =>
    match values.find? fun a => name a = t with
    | some a => .value a
    | none => .fail .unknownName
  | _ => .fail .unknownName

/-- A field that must be there. -/
def required {α : Type} (fields : Fields) (name : Text) (read : Datum → Checked α) : Checked α :=
  (match Datum.lookup name fields with
    | some value => read value
    | none => .fail .missing).under (.field name)

/-- A field that has a default. -/
def defaulted {α : Type} (fields : Fields) (name : Text) (read : Datum → Checked α) (default : α) :
    Checked α :=
  (match Datum.lookup name fields with
    | some value => read value
    | none => .value default).under (.field name)

end GraphCompletion.Message
