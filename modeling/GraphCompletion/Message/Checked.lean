import GraphCompletion.Text.Basic

/-!
# Checked values

What reading a message gives: a value, or everything that is wrong with the message. The parts of a
message are read side by side, so the issues of all of them are listed, in the order of the parts.
-/
namespace GraphCompletion

/-- A step from a message to one of its parts. -/
inductive Step where
  | field (name : Text)
  | item (index : Nat)
  /-- One of the readings that a part may have. -/
  | reading (name : Text)
  deriving DecidableEq, Repr

/-- What is wrong with a part of a message. -/
inductive Cause where
  | missing
  | notText
  | notWhole
  | unreadableWhole
  | wholeTooLong
  | fractional
  | notFinite
  | notTruth
  | unreadableTruth
  | notList
  | notMapping
  | notRecord
  | unknownName
  | unexpectedWord
  | belowLimit
  | rejected
  deriving DecidableEq, Repr

namespace Cause

/-- The code that a client knows the cause by. -/
def code : Cause → Text
  | missing => "missing"
  | notText => "string_type"
  | notWhole => "int_type"
  | unreadableWhole => "int_parsing"
  | wholeTooLong => "int_parsing_size"
  | fractional => "int_from_float"
  | notFinite => "finite_number"
  | notTruth => "bool_type"
  | unreadableTruth => "bool_parsing"
  | notList => "list_type"
  | notMapping => "dict_type"
  | notRecord => "model_type"
  | unknownName => "enum"
  | unexpectedWord => "literal_error"
  | belowLimit => "greater_than_equal"
  | rejected => "value_error"

end Cause

/-- Something wrong, and where. -/
structure Issue where
  path : List Step
  cause : Cause
  deriving DecidableEq, Repr

/-- A value, or the issues that keep it from being one. -/
inductive Checked (α : Type) where
  | value (a : α)
  | issues (found : List Issue)
  deriving DecidableEq, Repr

namespace Checked

/-- A fault of the message itself. -/
def fail {α : Type} (cause : Cause) : Checked α := issues [⟨[], cause⟩]

def map {α β : Type} (f : α → β) : Checked α → Checked β
  | value a => value (f a)
  | issues found => issues found

/-- A function and its argument read side by side. -/
def apply {α β : Type} : Checked (α → β) → Checked α → Checked β
  | value f, value a => value (f a)
  | value _, issues found => issues found
  | issues found, value _ => issues found
  | issues found, issues more => issues (found ++ more)

instance : Applicative Checked where
  pure := value
  map := map
  seq f a := apply f (a ())

/-- The issues of a part as issues of the whole. -/
def under {α : Type} (step : Step) : Checked α → Checked α
  | value a => value a
  | issues found => issues (found.map fun issue => { issue with path := step :: issue.path })

/-- A further test of a value that could be read. -/
def andThen {α β : Type} (a : Checked α) (test : α → Checked β) : Checked β :=
  match a with
  | value a => test a
  | issues found => issues found

/-- The values of a list read side by side, numbered from `index`. -/
def items {α β : Type} (read : α → Checked β) (index : Nat) : List α → Checked (List β)
  | [] => value []
  | a :: rest => apply (((read a).under (.item index)).map List.cons) (items read (index + 1) rest)

def toExcept {α : Type} : Checked α → Except (List Issue) α
  | value a => .ok a
  | issues found => .error found

end Checked
end GraphCompletion
