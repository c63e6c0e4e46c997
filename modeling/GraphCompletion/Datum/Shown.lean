import GraphCompletion.Datum.Basic
import GraphCompletion.Number.Shortest
import GraphCompletion.Number.Whole
import GraphCompletion.Text.Quoted

/-!
# Values as text

A text is shown as it is, any other value in a bracketed notation in which the texts are quoted. The
spellings of null and of the truth values are part of the notation. A value with a number of too many
digits in it has no text, nor has one whose lists and mappings stand too deep in one another.
-/
namespace GraphCompletion.Datum

/-- The spellings of the values that have a word. -/
structure Spelling where
  null : Text
  yes : Text
  no : Text

def spelling : Spelling := ⟨"None", "True", "False"⟩

mutual

/-- A value as it stands inside a list or a mapping. -/
def inner : Datum → Text
  | null => spelling.null
  | bool b => if b then spelling.yes else spelling.no
  | int i => Number.intText i
  | float d => d.toText
  | text t => Text.quoted t
  | list items => ['['] ++ Text.join ", " (innerItems items) ++ [']']
  | mapping fields => ['\x7b'] ++ Text.join ", " (innerFields fields) ++ ['\x7d']

def innerItems : List Datum → List Text
  | [] => []
  | item :: rest => inner item :: innerItems rest

def innerFields : List (Text × Datum) → List Text
  | [] => []
  | (name, value) :: rest => (Text.quoted name ++ ": " ++ inner value) :: innerFields rest

end

/-- A value on its own. -/
def shown : Datum → Text
  | text t => t
  | value => inner value

/-- Why a value has no text. -/
inductive TextFault where
  /-- A whole number has more digits than it may have. -/
  | numberTooLong
  /-- Lists and mappings stand too deep in one another. -/
  | nestedTooDeep
  deriving DecidableEq, Repr

/-- So many lists and mappings may stand in one another. Each of them takes its part of the stack, which
those that ask for the text share; the number is for a stack that is else nearly empty. -/
def nestingLimit : Nat := 950

mutual

/-- What keeps a value from being shown where `room` more levels fit, the first fault from the left. -/
def faultWithin? : Datum → (room : Nat) → Option TextFault
  | int i, _ => if Number.isWritable i then none else some .numberTooLong
  | list items, room =>
    if room = 0 then some .nestedTooDeep else itemsFaultWithin? items (room - 1)
  | mapping fields, room =>
    if room = 0 then some .nestedTooDeep else fieldsFaultWithin? fields (room - 1)
  | null, _ | bool _, _ | float _, _ | text _, _ => none

def itemsFaultWithin? : List Datum → (room : Nat) → Option TextFault
  | [], _ => none
  | item :: rest, room => (faultWithin? item room).or (itemsFaultWithin? rest room)

def fieldsFaultWithin? : List (Text × Datum) → (room : Nat) → Option TextFault
  | [], _ => none
  | (_, value) :: rest, room => (faultWithin? value room).or (fieldsFaultWithin? rest room)

end

/-- What keeps a value from being shown, if anything does. -/
def textFault? (value : Datum) : Option TextFault := value.faultWithin? nestingLimit

end GraphCompletion.Datum
