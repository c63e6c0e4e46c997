import GraphCompletion.Insertion
import GraphCompletion.Metadata
import GraphCompletion.Suggestion

/-!
# Completion at a caret

The context at the caret, what the rules need to know of the item around it, and the suggestions.
-/
namespace GraphCompletion

/-- The context at a caret with the keys in use around it. -/
structure Completion where
  context : EditingContext
  objectKeys : List Text
  item : ItemContext
  entities : Entities
  deriving DecidableEq, Repr

/-- The vocabulary that a request brings with it. -/
structure Vocabulary where
  catalog : Catalog := {}
  nodeTypes : List Text := []
  linkTypes : List Text := []
  spec : Spec := .default
  fallbackNodeTypes : List Text := []
  fallbackLinkTypes : List Text := []
  deriving Repr

namespace Completion

/-- What stands around the caret. -/
def atCaret (text : Text) (lineNumber column : Int) (metadata : Metadata) (indentSize : Int) :
    Completion :=
  let context := EditingContext.resolve text lineNumber column indentSize
  let lines := metadata.lines
  let index := max 0 (min (lineNumber - 1) (lines.length - 1))
  { context
    objectKeys :=
      if context.kind = .key then Item.keys lines index context.area index indentSize else []
    item := if context.kind = .itemKey then Item.context lines index context.area indentSize else {}
    entities := metadata.entities }

/-- What the suggestion rules consult. -/
def source (c : Completion) (metadata : Metadata) (v : Vocabulary) : SuggestionSource :=
  { spec := v.spec
    catalog := some v.catalog
    nodeTypes := v.nodeTypes
    linkTypes := v.linkTypes
    fallbackNodeTypes := v.fallbackNodeTypes
    fallbackLinkTypes := v.fallbackLinkTypes
    entities := c.entities
    presentSections := metadata.presentSections
    itemKeys := c.item.keys
    canContinueItem := c.item.canContinue
    objectKeys := c.objectKeys }

/-- The suggestions at the caret. -/
def suggestions (c : Completion) (metadata : Metadata) (v : Vocabulary) : List Text :=
  Suggestion.offered c.context (c.source metadata v)

end Completion
end GraphCompletion
