import GraphCompletion.Number.Double
import GraphCompletion.Text.Basic

/-!
# Untyped values

A host hands in grammars, catalogs and requests as values whose shape nothing promises. The fields
of a mapping keep their order, and a field is found by its name.
-/
namespace GraphCompletion

/-- A value of any shape. -/
inductive Datum where
  | null
  | bool (b : Bool)
  | int (i : Int)
  | float (d : Double)
  | text (t : Text)
  | list (items : List Datum)
  | mapping (fields : List (Text × Datum))
  deriving Inhabited, Repr

namespace Datum

/-- The values that stand for nothing: null, false, zero, and whatever is empty. -/
def isEmpty : Datum → Bool
  | null => true
  | bool b => !b
  | int i => i == 0
  | float d => d.isZero
  | text t => t.isEmpty
  | list items => items.isEmpty
  | mapping fields => fields.isEmpty

/-- The value of a field among fields. -/
def lookup (name : Text) (fields : List (Text × Datum)) : Option Datum :=
  (fields.find? fun field => field.1 = name).map (·.2)

/-- The value of a field, if the value is a mapping that has it. -/
def field? (name : Text) : Datum → Option Datum
  | mapping fields => lookup name fields
  | _ => none

/-- The first named field whose value stands for something. -/
def firstPresent (fields : List (Text × Datum)) (names : List Text) : Option Datum :=
  names.findSome? fun name =>
    match lookup name fields with
    | some value => if value.isEmpty then none else some value
    | none => none

/-- The value of the first named field that is there at all, empty or not. -/
def firstGiven (fields : List (Text × Datum)) (names : List Text) : Option Datum :=
  names.findSome? fun name => lookup name fields

/-- The text, if the value is one. -/
def text? : Datum → Option Text
  | text t => some t
  | _ => none

theorem isEmpty_eq_false_of_firstPresent {fields : List (Text × Datum)} {names : List Text}
    {value : Datum} (found : firstPresent fields names = some value) : value.isEmpty = false := by
  obtain ⟨name, _, held⟩ := List.exists_of_findSome?_eq_some found
  split at held
  · split at held
    · simp at held
    · simp_all
  · simp at held

end Datum
end GraphCompletion
