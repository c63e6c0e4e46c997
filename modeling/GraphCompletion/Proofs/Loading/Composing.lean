import GraphCompletion.Lines
import GraphCompletion.Proofs.Loading.PlainTag
import GraphCompletion.Proofs.Loading.Scanning
import GraphCompletion.Yaml.Node

/-!
# Nodes of a text without tags

Where the tokens of a text make up no nodes, the document is invalid or a character code in it is too
large. The nodes of a text without tags have the tags that their forms tell: a scalar one that suits its
text, a collection its own.
-/
namespace GraphCompletion.Yaml

/-- No tag stands in the text, no number in base sixty in it has too many places, no character code in it
is too large, and no whole number on a line of it is too long. -/
structure Plain (text : Text) : Prop where
  untagged : '!' ∉ text
  short : text.count ':' < Scalar.placeLimit
  codes : ¬ HasLargeCode text
  narrow : ∀ line ∈ Lines.ofText text, line.length ≤ Number.lengthLimit

/-- A node with a tag that its form tells. -/
def Node.IsNatural : Node → Prop
  | .scalar tag text => Tag.Suits tag text
  | .sequence tag _ => tag = Tag.seq
  | .mapping tag _ => tag = Tag.map

/-- The tokens of a text are composed so far. If the text is plain, no tag is left among its tokens, and
its nodes have natural tags. -/
structure Composition.Reads (text : Text) (s : Composition) : Prop where
  fault : ∀ fault, s.fault = some fault → Misread text fault
  tokens : Plain text → ∀ token ∈ s.tokens, token.IsUntagged text
  nodes : Plain text → ∀ node ∈ s.nodes, node.IsNatural

/-- A whole number that is a plain scalar stands on one line of the text. -/
theorem IsPlainIn.length_le {text t : Text} (taken : IsPlainIn text t) (plain : Plain text)
    (form : Tag.isInt t = true) : t.length ≤ Number.lengthLimit := by
  have solid : '\n' ∉ t := fun member => by cases Tag.isGap_eq_false_of_mem_of_isInt form member
  rcases taken.piece with within | ⟨x, member, gap⟩
  · obtain ⟨line, member, within⟩ := Text.exists_piece_of_isInfix within solid
    exact Nat.le_trans within.length_le (plain.narrow line member)
  · rw [Tag.isGap_eq_false_of_mem_of_isInt form member] at gap
    cases gap

namespace Compose

variable {α : Type} {text : Text}

/-- A step of the reading of a text. -/
def Reads (text : Text) (good : α → Prop) (step : Compose α) : Prop :=
  Keeps (Misread text) (Composition.Reads text) good step

/-! ## Tokens -/

variable {fuel : Nat}

end Compose

end GraphCompletion.Yaml
