import GraphCompletion.Log.Record
import GraphCompletion.Text.Word

/-!
# Layouts of log lines

A layout is a text with directives such as `%(name)s` or `%(levelname)-8s`, which the fields of a
record fill, and `%%` for a percent sign. A record that does not suit its layout gives no line. The
time of a record is written as a sign that stands for it.
-/
namespace GraphCompletion.Log

/-- A place in a layout that a field of the record fills. -/
structure Directive where
  field : Text
  leftAligned : Bool
  width : Nat
  precision : Option Nat
  conversion : Char
  deriving DecidableEq, Repr

/-- A piece of a layout. -/
inductive Piece where
  | literal (c : Char)
  | directive (d : Directive)
  deriving DecidableEq, Repr

/-- The look of a log line. -/
structure Layout where
  template : Text := "%(message)s"
  deriving DecidableEq, Repr

/-- What stands for the time of a record. -/
def timeSign : Text := "<time>"

namespace Directive

/-- The number at the front of a text, zero without a digit, and the rest. -/
def takeNumber (t : Text) : Nat × Text :=
  ((t.takeWhile Char.isDigit).foldl (fun n c => n * 10 + (c.toNat - 48)) 0, t.dropWhile Char.isDigit)

/-- The signs that say how a field is fitted. -/
def flags : Text := "#0+ -"

/-- The letters that say how a field is written. -/
def conversions : Text := "diouxXeEfFgGcrsa"

/-- A directive at the front of what follows its opening parenthesis, and the rest. -/
def read? (t : Text) : Option (Directive × Text) :=
  match Text.cutAt ')' t with
  | (_, none) => none
  | (field, some rest) =>
    let given := rest.takeWhile flags.contains
    let (width, rest) := takeNumber (rest.dropWhile flags.contains)
    let (precision, rest) : Option Nat × Text :=
      match rest with
      | '.' :: rest => let (n, rest) := takeNumber rest; (some n, rest)
      | rest => (none, rest)
    match rest with
    | c :: rest =>
      if conversions.contains c then some (⟨field, given.contains '-', width, precision, c⟩, rest)
      else none
    | [] => none

/-- The field of a record that a directive names. -/
def fieldText? (d : Directive) (record : Record) : Option Text :=
  let rank := record.level.rank
  match d.conversion, String.ofList d.field with
  | 's', "name" => some record.logger
  | 's', "levelname" => some record.level.name
  | 's', "message" => some record.message
  | 's', "asctime" => some timeSign
  | 's', "levelno" | 'd', "levelno" | 'i', "levelno" => some (Number.intText rank)
  | 'r', "name" => some (Text.quoted record.logger)
  | 'r', "levelname" => some (Text.quoted record.level.name)
  | 'r', "message" => some (Text.quoted record.message)
  | _, _ => none

/-- A text cut to the precision and filled with spaces up to the width. -/
def fit (d : Directive) (t : Text) : Text :=
  let cut := match d.precision with
    | some n => t.take n
    | none => t
  let padding := List.replicate (d.width - cut.length) ' '
  if d.leftAligned then cut ++ padding else padding ++ cut

end Directive

namespace Layout

/-- The pieces of a template, which takes less than `fuel` steps. -/
def piecesWithin : (fuel : Nat) → Text → Option (List Piece)
  | 0, _ => none
  | _, [] => some []
  | fuel + 1, '%' :: '%' :: rest => (piecesWithin fuel rest).map (.literal '%' :: ·)
  | fuel + 1, '%' :: '(' :: rest => do
    let (d, rest) ← Directive.read? rest
    (piecesWithin fuel rest).map (.directive d :: ·)
  | _, '%' :: _ => none
  | fuel + 1, c :: rest => (piecesWithin fuel rest).map (.literal c :: ·)

/-- The pieces of the layout, none if it is malformed. -/
def pieces? (layout : Layout) : Option (List Piece) :=
  piecesWithin (layout.template.length + 1) layout.template

/-- A directive for a field stands somewhere in the template. -/
def hasDirective : Text → Bool
  | [] => false
  | c :: rest =>
    (match c, rest with
      | '%', '(' :: rest =>
        match Directive.read? rest with
        | some (d, _) => !d.field.isEmpty && d.field.all fun c => Text.isWordChar c && c != '-'
        | none => false
      | _, _ => false) || hasDirective rest

def pieceText? (record : Record) : Piece → Option Text
  | .literal c => some [c]
  | .directive d => (d.fieldText? record).map d.fit

/-- The line of a record. -/
def render? (layout : Layout) (record : Record) : Option Text := do
  let parts ← (← layout.pieces?).mapM (pieceText? record)
  pure parts.flatten

end Layout
end GraphCompletion.Log
