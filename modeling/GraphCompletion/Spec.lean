import GraphCompletion.Datum.Shown
import GraphCompletion.Section
import GraphCompletion.Text.Blank

/-!
# Key grammar

Which sections a document may have at its root and which keys the items of a section may have, in
which order. A grammar is built from untyped values; what it leaves out, or gives in another shape,
comes from the default grammar. A key list may hold anything: only the texts in it can be keys.
-/
namespace GraphCompletion

/-- The keys of one section's items. -/
structure ItemSpec where
  orderedKeys : Option (List Datum)
  requiredKeys : Option (List Datum)
  /-- The key that opens an item. -/
  startKey : Option Text
  deriving Repr

/-- The grammar of graph documents. -/
structure Spec where
  rootSections : Option (List Text)
  node : Option ItemSpec
  link : Option ItemSpec
  deriving Repr

namespace ItemSpec

/-- A section's keys from texts. -/
def ofTexts (ordered required : List Text) (start : Text) : ItemSpec :=
  ⟨some (ordered.map .text), some (required.map .text), some start⟩

def defaultNode : ItemSpec :=
  ofTexts ["name", "type", "ports", "nodes", "links"] ["name"] "name"

def defaultLink : ItemSpec := ofTexts ["from", "to", "label", "type"] ["from", "to"] "from"

/-- The key that is never offered. -/
def forbiddenKey : Text := "id"

/-- The texts of a key list that can be offered: neither blank nor the forbidden key. -/
def offerable (keys : Option (List Datum)) : List Text :=
  ((keys.getD []).filterMap Datum.text?).filter fun key =>
    !Text.isBlank key && Text.strip key != forbiddenKey

/-- The keys in the order they are offered: required ones first, each once. -/
def offeredKeys (spec : ItemSpec) : List Text :=
  (offerable spec.requiredKeys ++ offerable spec.orderedKeys).eraseDups

/-- The value of a field under either of its names, the second counting only without the first. -/
def fieldOr (fields : List (Text × Datum)) (name other : Text) : Datum :=
  (Datum.firstGiven fields [name, other]).getD .null

/-- A list of keys, or the default's when the value is no list. -/
def keyList (value : Datum) (default : Option (List Datum)) : Option (List Datum) :=
  match value with
  | .list items => some items
  | _ => default

/-- A section's keys from an untyped value. -/
def ofDatum (value : Datum) (default : ItemSpec) : ItemSpec :=
  match value with
  | .mapping fields =>
    let start := fieldOr fields "entry_start_key" "entryStartKey"
    { orderedKeys := keyList (fieldOr fields "ordered_keys" "orderedKeys") default.orderedKeys
      requiredKeys := keyList (fieldOr fields "required_keys" "requiredKeys") default.requiredKeys
      startKey := if start.isEmpty then default.startKey else some start.shown }
  | _ => default

end ItemSpec

namespace Spec

/-- The default grammar. -/
def default : Spec := ⟨some ["nodes", "links"], some .defaultNode, some .defaultLink⟩

/-- A grammar from the fields of a mapping. -/
def ofFields (fields : List (Text × Datum)) : Spec :=
  if fields.isEmpty then default
  else
    { rootSections :=
        match ItemSpec.fieldOr fields "root_sections" "rootSections" with
        | .list items => some ((items.filter fun item => !item.isEmpty).map Datum.shown)
        | _ => default.rootSections
      node := some (.ofDatum ((Datum.lookup "node" fields).getD .null) .defaultNode)
      link := some (.ofDatum ((Datum.lookup "link" fields).getD .null) .defaultLink) }

/-- A grammar whose missing parts are those of the default one. A section without a name, and a start
key without a character, count as missing. -/
def completed (spec : Spec) : Spec :=
  let started (item : Option ItemSpec) (default : ItemSpec) : ItemSpec :=
    match item with
    | none => default
    | some item =>
      { item with
        startKey := (item.startKey.filter fun key => !key.isEmpty).or default.startKey }
  { rootSections :=
      (spec.rootSections.map fun names => names.filter fun name => !name.isEmpty).or
        default.rootSections
    node := some (started spec.node .defaultNode)
    link := some (started spec.link .defaultLink) }

/-- A grammar from an untyped value, the default one from a value that stands for nothing. Any other
value that is no mapping has no grammar. -/
def ofDatum? (value : Datum) : Option Spec :=
  if value.isEmpty then some default
  else match value with
    | .mapping fields => some (ofFields fields)
    | _ => none

/-- The sections that may stand at the root. -/
def rootSectionsOrDefault (spec : Spec) : List Text :=
  match spec.rootSections with
  | some (name :: others) => name :: others
  | _ => (default.rootSections).getD []

/-- The keys of a section's items; the root has none. -/
def itemSpec? (spec : Spec) : Section → Option ItemSpec
  | .root => none
  | .nodes => some (spec.node.getD .defaultNode)
  | .links => some (spec.link.getD .defaultLink)

/-- The keys of the items under a collection's name: nodes for that name, links for any other. -/
def itemSpecOf (spec : Spec) (collection : Text) : ItemSpec :=
  if collection = "nodes".toList then spec.node.getD .defaultNode else spec.link.getD .defaultLink

/-- The key that opens the first item under a collection's name. -/
def startKeyOf (spec : Spec) (collection : Text) : Option Text := (spec.itemSpecOf collection).startKey

end Spec

/-- What a key is for, shown beside it; nothing for an unknown key. -/
def keyDocumentation (key : Text) : Text :=
  let table : List (Text × Text) := [
    ("nodes", "Collection of graph nodes. Supports nested nodes and nested links."),
    ("links", "Collection of graph links/edges. Use from/to as node[:port] references."),
    ("name", "Display name for a node. Also used as a default endpoint identifier."),
    ("type", "Domain node/link type. Type suggestions are profile-driven."),
    ("from", "Link source endpoint in node or node:port format."),
    ("to", "Link destination endpoint in node or node:port format."),
    ("label", "Optional display label for links."),
    ("ports", "Port definitions for node endpoints.")]
  ((table.find? fun entry => entry.1 = key).map (·.2)).getD []

end GraphCompletion
