import GraphCompletion.Text.Basic

/-!
# Revisions

A caller may give a text a revision, a number or a name. A number and a name are never the same.
-/
namespace GraphCompletion

/-- What the caller says the version of a text is. -/
inductive Revision where
  | unknown
  | number (i : Int)
  | name (t : Text)
  deriving DecidableEq, Repr

end GraphCompletion
