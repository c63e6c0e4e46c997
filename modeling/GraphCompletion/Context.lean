import GraphCompletion.Item

/-!
# Context of the caret

What is being typed at a line number and column, from the line scans alone. The rules are tried in
order and the first that applies wins: padding around the document, the blank line after an item's
last key, a type value, an endpoint value, an item's key, a key, and at last nothing.
-/
namespace GraphCompletion

/-- What the caret stands on. -/
inductive ContextKind where
  | rootKey
  | rootItemKey
  | key
  | itemKey
  | nodeTypeValue
  | linkTypeValue
  | endpointValue
  | none
  deriving DecidableEq, Repr

/-- The two ends of a link. -/
inductive Endpoint where
  | source
  | target
  deriving DecidableEq, Repr

namespace ContextKind

/-- The name an editor knows the kind by. -/
def word : ContextKind → Text
  | rootKey => "rootKey"
  | rootItemKey => "rootItemKey"
  | key => "key"
  | itemKey => "itemKey"
  | nodeTypeValue => "nodeTypeValue"
  | linkTypeValue => "linkTypeValue"
  | endpointValue => "endpointValue"
  | none => "none"

def all : List ContextKind :=
  [rootKey, rootItemKey, key, itemKey, nodeTypeValue, linkTypeValue, endpointValue, none]

end ContextKind

namespace Endpoint

/-- The key of the endpoint. -/
def word : Endpoint → Text
  | source => "from"
  | target => "to"

def all : List Endpoint := [source, target]

end Endpoint

/-- What is being typed: its kind, the section it stands in, and the part of it left of the caret.
The endpoint is given for endpoint values only. -/
structure EditingContext where
  kind : ContextKind
  area : Section
  typed : Text := []
  endpoint : Option Endpoint := none
  deriving DecidableEq, Repr

namespace EditingContext

/-- The value typed after `type:`, with or without a dash before it. -/
def typeValue? (typed : Text) : Option Text := do
  let value := Text.stripLeft (← Text.after? "type:" (Text.afterDash typed))
  if value.all Text.isWordChar then some value else none

/-- The endpoint and the value typed after `from:` or `to:`, with or without a dash before it. -/
def endpointValue? (typed : Text) : Option (Endpoint × Text) :=
  Endpoint.all.findSome? fun endpoint => do
    let value := Text.stripLeft (← Text.after? (endpoint.word ++ [':']) (Text.afterDash typed))
    if value.any Text.isBlankChar then none else some (endpoint, value)

/-- The part of a key typed after a dash. -/
def dashKey? : Text → Option Text
  | '-' :: rest =>
    let word := Text.stripLeft rest
    if word.isEmpty || Text.isWord word then some word else none
  | _ => none

/-- The part of a key typed without a dash. -/
def bareKey? (typed : Text) : Option Text :=
  if typed.isEmpty || Text.isWord typed then some typed else none

/-- The context of a value, if one is being typed in a section that has such values. -/
def ofValue? (area : Section) (typed : Text) : Option EditingContext :=
  match area, typeValue? typed, endpointValue? typed with
  | .nodes, some value, _ => some ⟨.nodeTypeValue, .nodes, value, none⟩
  | .links, some value, _ => some ⟨.linkTypeValue, .links, value, none⟩
  | .links, none, some (endpoint, value) => some ⟨.endpointValue, .links, value, some endpoint⟩
  | _, _, _ => none

/-- The context of a key, if one is being typed. Left of or at the column of the items of a
collection a key belongs to an item, further right to the item's own mapping. -/
def ofKey? (area : Section) (atItemColumn : Bool) (typed : Text) : Option EditingContext :=
  match area, dashKey? typed, bareKey? typed with
  | .root, _, some word => some ⟨.rootKey, .root, word, none⟩
  | .root, _, none => none
  | area, some word, _ => some ⟨.itemKey, area, word, none⟩
  | area, none, some word => some ⟨if atItemColumn then .itemKey else .key, area, word, none⟩
  | _, none, none => none

/-- The context at a line of the document, with `typed` the stripped text left of the caret. -/
def ofLine (lines : List Text) (lineNumber indentSize : Int) (typed : Text) : EditingContext :=
  let index := lineNumber - 1
  let indent := Line.indent (Lines.get lines index)
  let scope := Scope.governing lines index indent
  let itemIndent : Int := scope.indent + indentSize
  if scope.area = .root ∧ Lines.isRootBoundary lines index then
    ⟨.rootItemKey, .root, [], none⟩
  else if scope.area ≠ .root ∧ Item.continuesAfterLastKey lines lineNumber scope.area itemIndent then
    ⟨.itemKey, scope.area, [], none⟩
  else
    ((ofValue? scope.area typed).or (ofKey? scope.area (indent ≤ itemIndent) typed)).getD
      ⟨.none, scope.area, [], none⟩

/-- The context at a caret in lines; a caret past the end stands on an added empty line. -/
def ofLines (lines : List Text) (lineNumber column indentSize : Int) : EditingContext :=
  let padded := Lines.padTo lines lineNumber
  let number := Lines.clampLineNumber lineNumber padded.length
  let line := Lines.get padded (number - 1)
  let typed := Text.strip (line.take (Lines.clampColumn column line - 1).toNat)
  ofLine padded number indentSize typed

/-- The context at a caret in a text. -/
def resolve (text : Text) (lineNumber column indentSize : Int) : EditingContext :=
  ofLines (Lines.ofText text) lineNumber column indentSize

end EditingContext
end GraphCompletion
