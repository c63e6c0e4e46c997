import GraphCompletion.Proofs.Loading.Outcome
import GraphCompletion.Yaml.Document

/-!
# Values of nodes

Where the nodes of a document have no values, the document is invalid, or a node has a text that does
not suit its tag; and a scalar value that cannot be written out is that of a node. Merging changes the
entries of mappings and makes keys texts: what the tag of a node gives then, the tag of a node of the
document gave before.
-/
namespace GraphCompletion.Yaml

namespace NodeGraph

/-- The text of a scalar of the document; an unknown number is that of an empty scalar. -/
def HasText (graph : NodeGraph) (text : Text) : Prop :=
  ∃ id tag, graph.nodes.getD id default = .scalar tag text

/-- A node of the document is the sign of a default value. -/
def HasDefault (graph : NodeGraph) : Prop := ∃ node ∈ graph.nodes, node.tag = Tag.value

/-- The tag of the node gives the text of the node this outcome. The default value of a mapping may give it
the text of a scalar, but never as a timestamp. -/
def Evaluates (graph : NodeGraph) (outcome : Except Fault Scalar) : Node → Prop
  | .scalar tag text => Scalar.ofTagged tag text = outcome
  | .sequence _ _ => False
  | .mapping tag _ =>
    graph.HasDefault ∧
      if tag = Tag.timestamp then outcome = .error .mappingTimestamp
      else ∃ text, graph.HasText text ∧ Scalar.ofTagged tag text = outcome

/-- The outcome is harmless, or the tag of one of the document's nodes gives it. -/
def Explains (graph : NodeGraph) (outcome : Except Fault Scalar) : Prop :=
  Harmless outcome ∨ ∃ node ∈ graph.nodes, graph.Evaluates outcome node

/-- What the document knows of a node: its text is one of the document, if it is the sign of a default
value, a node of the document is, and the document explains what its tag gives. -/
structure Covers (graph : NodeGraph) (node : Node) : Prop where
  text : ∀ tag text, node = .scalar tag text → graph.HasText text
  default : node.tag = Tag.value → graph.HasDefault
  outcomes : ∀ outcome, graph.Evaluates outcome node → graph.Explains outcome

variable {graph : NodeGraph} {node : Node}

/-- What the tag of a mapping gives does not depend on its entries. -/
theorem Covers.mapping {tag : Text} {entries others : List (Nat × Nat)}
    (covers : graph.Covers (.mapping tag entries)) : graph.Covers (.mapping tag others) where
  text := by rintro _ _ ⟨⟩
  default := covers.default
  outcomes := covers.outcomes

end NodeGraph

namespace Construct

variable {α : Type} {graph : NodeGraph} {s : Construction}

end Construct

end GraphCompletion.Yaml
