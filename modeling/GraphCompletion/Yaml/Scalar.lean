import GraphCompletion.Number.Reading
import GraphCompletion.Number.Whole
import GraphCompletion.Text.Word
import GraphCompletion.Yaml.Fault
import GraphCompletion.Yaml.Tag

/-!
# Scalar values

The value that a tag gives to a text. Dates are checked against the calendar. Two scalars are the same
key of a mapping when they are equal as values, where truth values count as zero and one and whole and
broken numbers are compared exactly.
-/
namespace GraphCompletion.Yaml

/-- A day of the calendar. -/
structure Date where
  year : Nat
  month : Nat
  day : Nat
  deriving DecidableEq, Repr

/-- A moment of a day, with the minutes by which its zone is ahead of universal time if it has one. -/
structure DateTime where
  date : Date
  hour : Nat
  minute : Nat
  second : Nat
  microsecond : Nat
  offset : Option Int
  deriving DecidableEq, Repr

/-- The value of a scalar. -/
inductive Scalar where
  | null
  | bool (b : Bool)
  | int (i : Int)
  | float (d : Double)
  | text (t : Text)
  | bytes (data : List UInt8)
  | date (d : Date)
  | dateTime (d : DateTime)
  deriving DecidableEq, Repr

namespace Date

def isLeap (year : Nat) : Bool := year % 4 == 0 && (year % 100 != 0 || year % 400 == 0)

/-- The days of a month. -/
def daysIn (year month : Nat) : Nat :=
  if month = 2 then if isLeap year then 29 else 28
  else if month = 4 ∨ month = 6 ∨ month = 9 ∨ month = 11 then 30
  else 31

/-- The day is on the calendar of the years 1 to 9999. -/
def isValid (d : Date) : Bool :=
  1 ≤ d.year && d.year ≤ 9999 && 1 ≤ d.month && d.month ≤ 12 && 1 ≤ d.day &&
    d.day ≤ daysIn d.year d.month

/-- Days since the beginning of the calendar. -/
def ordinal (d : Date) : Nat :=
  let before := d.year - 1
  let months := (List.range (d.month - 1)).map fun m => daysIn d.year (m + 1)
  before * 365 + before / 4 - before / 100 + before / 400 + months.foldl (· + ·) 0 + d.day

/-- A number with zeros before it up to `width` digits. -/
def padded (width n : Nat) : Text :=
  let digits := Number.natText n
  List.replicate (width - digits.length) '0' ++ digits

/-- Year, month and day with hyphens between them. -/
def toText (d : Date) : Text := padded 4 d.year ++ ['-'] ++ padded 2 d.month ++ ['-'] ++ padded 2 d.day

end Date

namespace DateTime

/-- Microseconds since the beginning of the calendar in universal time. -/
def instant (d : DateTime) : Int :=
  let minutes : Int := d.date.ordinal * 1440 + d.hour * 60 + d.minute - d.offset.getD 0
  (minutes * 60 + d.second) * 1000000 + d.microsecond

/-- Equal moments; one with a zone never equals one without. -/
def same (a b : DateTime) : Bool :=
  match a.offset, b.offset with
  | none, none => a = b
  | some _, some _ => a.instant = b.instant
  | _, _ => false

/-- Date, `T` and time; microseconds if there are any, and the zone if there is one. -/
def toText (d : DateTime) : Text :=
  let fraction := if d.microsecond = 0 then [] else ['.'] ++ Date.padded 6 d.microsecond
  let zone := match d.offset with
    | none => []
    | some minutes =>
      [if minutes < 0 then '-' else '+'] ++ Date.padded 2 (minutes.natAbs / 60) ++ [':'] ++
        Date.padded 2 (minutes.natAbs % 60)
  d.date.toText ++ ['T'] ++ Date.padded 2 d.hour ++ [':'] ++ Date.padded 2 d.minute ++ [':'] ++
    Date.padded 2 d.second ++ fraction ++ zone

end DateTime

namespace Scalar

/-- The whole number that a value counts as. -/
def whole? : Scalar → Option Int
  | bool b => some (if b then 1 else 0)
  | int i => some i
  | float d => d.toInt?
  | _ => none

/-- The same key of a mapping. The NaN of the word `.nan` is one key wherever it stands; any other NaN is
a key of its own. -/
def sameKey (a b : Scalar) : Bool :=
  match a.whole?, b.whole? with
  | some i, some j => i = j
  | none, none =>
    match a, b with
    | float d, float e => d = e && (!d.isNaN || d = Double.signedNaN)
    | dateTime d, dateTime e => d.same e
    | a, b => a = b
  | _, _ => false

/-- The value can be written out; only a whole number with too many digits cannot. -/
def isWritable : Scalar → Bool
  | int i => Number.isWritable i
  | _ => true

/-- A truth value in one of its words, in any case. -/
def ofBool (t : Text) : Except Fault Scalar :=
  let word := Text.lower t
  if ["yes".toList, "true".toList, "on".toList].contains word then .ok (.bool true)
  else if ["no".toList, "false".toList, "off".toList].contains word then .ok (.bool false)
  else .error .unknownWord

/-- A text without underscores. -/
def withoutUnderscores (t : Text) : Text := t.filter (· != '_')

/-- A sign at the front of a number, true for minus, and the rest; there must be a character. -/
def signed (t : Text) : Except Fault (Bool × Text) :=
  match t with
  | [] => .error .emptyNumber
  | c :: rest => .ok (c = '-', if c = '-' ∨ c = '+' then rest else t)

/-- A value, or the fault of a number that does not exist. -/
def orBadNumber {α : Type} : Option α → Except Fault α
  | some a => .ok a
  | none => .error .value

/-- A whole number: binary, octal, hexadecimal, decimal or in base sixty. -/
def ofInt (t : Text) : Except Fault Scalar := do
  let (negative, t) ← signed (withoutUnderscores t)
  let size ←
    match t with
    | [] => .error .emptyNumber
    | ['0'] => pure 0
    | '0' :: 'b' :: rest => orBadNumber (Number.int? 2 rest)
    | '0' :: 'x' :: rest => orBadNumber (Number.int? 16 rest)
    | '0' :: _ => orBadNumber (Number.int? 8 t)
    | t =>
      if ':' ∈ t then do
        let places ← orBadNumber ((Text.splitOn ':' t).mapM (Number.int? 10))
        pure (places.foldl (fun n place => n * 60 + place) 0)
      else orBadNumber (Number.int? 10 t)
  pure (.int (if negative then -size else size))

/-- What a place in base sixty is multiplied with, as a double. -/
def placeWeight (base : Nat) : Except Fault Double :=
  match Double.ofInt? base with
  | none => .error .overflow
  | some weight => .ok weight

/-- The sum of places in base sixty, the last place first, each step rounded. -/
def sumSixtieths (base : Nat) (total : Double) : List Double → Except Fault Double
  | [] => .ok total
  | place :: rest => do
    let weight ← placeWeight base
    sumSixtieths (base * 60) (total.add (place.multiply weight)) rest

/-- A broken number: decimal, in base sixty, infinite, or no number. -/
def ofFloat (t : Text) : Except Fault Scalar := do
  let (negative, t) ← signed (Text.lower (withoutUnderscores t))
  let size ←
    if t = ".inf".toList then pure (Double.infinity false)
    else if t = ".nan".toList then pure Double.signedNaN
    else if ':' ∈ t then do
      let places ← orBadNumber ((Text.splitOn ':' t).mapM Number.double?)
      sumSixtieths 1 (Double.ofFields false 0 0) places.reverse
    else orBadNumber (Number.double? t)
  pure (.float (if negative && !size.isNaN then size.negate else size))

/-- The number that decimal digits write. -/
def digitsValue (t : Text) : Nat := t.foldl (fun n c => n * 10 + (c.toNat - 48)) 0

/-- The minutes by which a zone is ahead; a day or more is too much. -/
def offset? (zone : Bool × Text × Text) : Option Int :=
  let minutes : Int := digitsValue zone.2.1 * 60 + digitsValue zone.2.2
  if minutes < 1440 then some (if zone.1 then -minutes else minutes) else none

/-- A date or a moment, if it is on the calendar. -/
def ofParts? (parts : Tag.TimestampParts) : Option Scalar :=
  let date : Date := ⟨digitsValue parts.year, digitsValue parts.month, digitsValue parts.day⟩
  if !date.isValid then none
  else
    match parts.time with
    | none => some (.date date)
    | some (hour, minute, second, fraction) =>
      let (hour, minute, second) := (digitsValue hour, digitsValue minute, digitsValue second)
      let places := fraction.take 6
      let microsecond := digitsValue (places ++ List.replicate (6 - places.length) '0')
      if 23 < hour ∨ 59 < minute ∨ 59 < second then none
      else
        match parts.zone with
        | none => some (.dateTime ⟨date, hour, minute, second, microsecond, none⟩)
        | some zone =>
          (offset? zone).map fun offset =>
            .dateTime ⟨date, hour, minute, second, microsecond, some offset⟩

/-- A date or a moment. -/
def ofTimestamp (t : Text) : Except Fault Scalar :=
  match Tag.timestampParts? (Text.withoutLast '\n' t) with
  | none => .error .notTimestamp
  | some parts => orBadNumber (ofParts? parts)

/-- The six bits that a character of base sixty-four stands for. -/
def base64Value? (c : Char) : Option Nat :=
  if 'A' ≤ c && c ≤ 'Z' then some (c.toNat - 65)
  else if 'a' ≤ c && c ≤ 'z' then some (c.toNat - 71)
  else if '0' ≤ c && c ≤ '9' then some (c.toNat + 4)
  else if c = '+' then some 62
  else if c = '/' then some 63
  else none

/-- Decodes base sixty-four. `place` counts the characters of the group of four so far, `held` are the
bits not yet given out, `pads` the padding signs in a row. Other characters do not count. -/
def decodeBase64 (place held pads : Nat) : Text → Option (List UInt8)
  | [] => if place = 0 then some [] else none
  | c :: rest =>
    if c = '=' then
      if 2 ≤ place then
        if 4 ≤ place + (pads + 1) then some [] else decodeBase64 place held (pads + 1) rest
      else decodeBase64 place held pads rest
    else
      match base64Value? c with
      | none => decodeBase64 place held pads rest
      | some bits =>
        let wide := held * 64 + bits
        match place with
        | 0 => decodeBase64 1 bits 0 rest
        | 1 => (decodeBase64 2 (wide % 16) 0 rest).map (UInt8.ofNat (wide / 16) :: ·)
        | 2 => (decodeBase64 3 (wide % 4) 0 rest).map (UInt8.ofNat (wide / 4) :: ·)
        | _ => (decodeBase64 0 0 0 rest).map (UInt8.ofNat wide :: ·)

/-- Bytes written in base sixty-four. -/
def ofBinary (t : Text) : Except Fault Scalar :=
  if t.all fun c => c.toNat < 128 then
    match decodeBase64 0 0 0 t with
    | some data => .ok (.bytes data)
    | none => .error .construction
  else .error .construction

/-- The value that a tag gives to a text. -/
def ofTagged (tag text : Text) : Except Fault Scalar :=
  if tag = Tag.str then .ok (.text text)
  else if tag = Tag.null then .ok .null
  else if tag = Tag.bool then ofBool text
  else if tag = Tag.int then ofInt text
  else if tag = Tag.float then ofFloat text
  else if tag = Tag.timestamp then ofTimestamp text
  else if tag = Tag.binary then ofBinary text
  else .error .construction

end Scalar
end GraphCompletion.Yaml
