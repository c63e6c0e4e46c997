import GraphCompletion.Context
import GraphCompletion.Spec

/-!
# Insertions

The text to splice in at the caret when a suggestion is accepted, and whether the editor should ask
for suggestions again at once. Opening a collection seeds its first item with the key that opens it.
-/
namespace GraphCompletion

/-- A text to splice in; a snippet has a place for the caret. -/
structure Insertion where
  text : Text
  isSnippet : Bool := false
  deriving DecidableEq, Repr

/-- Whether the editor asks for suggestions again, and what it calls that. -/
structure FollowUp where
  key : Text
  asksAgain : Bool
  title : Text := []
  deriving DecidableEq, Repr

/-- A suggestion's label taken apart. -/
structure Label where
  /-- The label as it is. -/
  raw : Text
  /-- The label without white space around it. -/
  trimmed : Text
  /-- The label opens an item: a dash and white space stand before the key. -/
  opensItem : Bool
  /-- The key in the label. -/
  key : Text
  deriving DecidableEq, Repr

namespace Label

/-- Takes a label apart. -/
def ofText (raw : Text) : Label :=
  let trimmed := Text.strip raw
  match trimmed with
  | '-' :: c :: rest =>
    if Text.isBlankChar c then ⟨raw, trimmed, true, Text.strip rest⟩
    else ⟨raw, trimmed, false, trimmed⟩
  | _ => ⟨raw, trimmed, false, trimmed⟩

/-- The key without a colon after it. -/
def bareKey (label : Label) : Text := Text.withoutLast ':' label.key

end Label

namespace Insertion

/-- The mark of the caret's place in a snippet. -/
def caretMark : Text := "$0"

/-- How a missing start key is written. -/
def startKeyText (spec : Spec) (collection : Text) : Text :=
  (spec.startKeyOf collection).getD Datum.spelling.null

/-- A line that opens an item with a key. -/
def itemLine (indent : Int) (key : Text) : Text := Text.spaces indent ++ "- " ++ key ++ ": "

/-- A collection's header and its first item with the key that opens it. -/
def collectionText (collection : Text) (spec : Spec) (indentSize keyIndent : Int) : Text :=
  Text.spaces keyIndent ++ collection ++ ":\n" ++
    itemLine (keyIndent + indentSize) (startKeyText spec collection)

/-- A root section's header and its first item; every section but `nodes` opens like the links. -/
def rootSectionText (name : Text) (spec : Spec) (indentSize : Int) : Text :=
  let collection : Text := if name = "nodes".toList then "nodes" else "links"
  name ++ ":\n" ++ itemLine indentSize (startKeyText spec collection)

/-- A key that opens a collection. -/
def isCollectionKey (key : Text) : Bool := key == "nodes".toList || key == "links".toList

/-- The line an insertion is made for: the given one, or that of the document if none is given. -/
def lineFor (lines : List Text) (lineNumber : Int) (currentLine : Text) : List Text × Int × Text :=
  let lines := if lines.isEmpty then [currentLine] else lines
  let index := max 0 (min (lineNumber - 1) (lines.length - 1))
  (lines, index, if currentLine.isEmpty then Lines.get lines index else currentLine)

/-- The text for an item's key. A collection opened on a blank line at the items' own column stands
beside its parent collection, else inside the item. -/
def itemKeyText (label : Label) (spec : Spec) (indentSize : Int) (lines : List Text) (index : Int)
    (line : Text) : Text :=
  let indent : Int := Line.indent line
  let scope := Scope.governing lines index indent
  let itemIndent : Int := scope.indent + indentSize
  if label.opensItem then itemLine itemIndent label.key
  else if isCollectionKey label.key then
    let besideParent : Bool := Line.isBlank line && indent = itemIndent && 0 < scope.indent
    collectionText label.key spec indentSize
      (if besideParent then scope.indent else itemIndent + indentSize)
  else Text.spaces (itemIndent + indentSize) ++ label.key ++ ": "

/-- The text to splice in for a suggestion in a context. -/
def build (context : EditingContext) (suggestion : Text) (spec : Spec) (indentSize : Int)
    (lines : List Text) (lineNumber : Int) (currentLine : Text) : Insertion :=
  let label := Label.ofText suggestion
  let (lines, index, line) := lineFor lines lineNumber currentLine
  match context.kind with
  | .rootKey => ⟨rootSectionText label.raw spec indentSize, false⟩
  | .rootItemKey => ⟨rootSectionText label.bareKey spec indentSize, false⟩
  | .itemKey => ⟨itemKeyText label spec indentSize lines index line, false⟩
  | .key =>
    if isCollectionKey label.trimmed then ⟨collectionText label.trimmed spec indentSize 0, false⟩
    else ⟨label.trimmed ++ ": ", false⟩
  | .nodeTypeValue | .linkTypeValue => ⟨label.raw ++ ['\n'] ++ caretMark, true⟩
  | .endpointValue | .none => ⟨label.raw, false⟩

end Insertion

namespace FollowUp

/-- The keys whose values have suggestions of their own. -/
def askingKeys : List Text := ["type", "from", "to"]

/-- Whether to ask again after a suggestion is accepted: after a key whose value has suggestions,
after a type, and after the node name of an endpoint. -/
def ofSuggestion (context : EditingContext) (suggestion : Text) : FollowUp :=
  let label := Label.ofText suggestion
  let key := match context.kind with
    | .itemKey | .rootItemKey => label.bareKey
    | _ => label.raw
  match context.kind with
  | .nodeTypeValue | .linkTypeValue => ⟨key, true, "Trigger Next Step Suggestions"⟩
  | .key | .itemKey =>
    if askingKeys.contains key then
      ⟨key, true, if key = Item.terminalKey then "Trigger Type Suggestions"
        else "Trigger Endpoint Suggestions"⟩
    else ⟨key, false, []⟩
  | .endpointValue =>
    if label.raw = [':'] then ⟨key, false, []⟩
    else ⟨key, true, if key = Item.terminalKey then "Trigger Type Suggestions"
      else "Trigger Endpoint Suggestions"⟩
  | _ => ⟨key, false, []⟩

end FollowUp
end GraphCompletion
