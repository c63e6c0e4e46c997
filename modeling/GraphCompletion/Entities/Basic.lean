import GraphCompletion.Text.Sorted

/-!
# Entities of a graph

The vocabulary that endpoint values are completed from: the names of a graph's nodes and, for a name,
the ports that links refer to.
-/
namespace GraphCompletion

/-- Node names, and the ports used with a name. -/
structure Entities where
  nodeNames : List Text := []
  portsByNode : List (Text × List Text) := []
  deriving DecidableEq, Repr

end GraphCompletion
