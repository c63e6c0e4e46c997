import GraphCompletion.Catalog
import GraphCompletion.Context
import GraphCompletion.Entities.Basic
import GraphCompletion.Spec

/-!
# Suggestions

The ordered texts offered in a context. A key is offered as `key`, as `- key` where it opens an item,
as `  key` where it continues one, and as `- key:` on padding lines. What is typed already only
narrows the offer.
-/
namespace GraphCompletion

/-- What the suggestion rules consult besides the context. -/
structure SuggestionSource where
  spec : Spec := .default
  catalog : Option Catalog := none
  nodeTypes : List Text := []
  linkTypes : List Text := []
  fallbackNodeTypes : List Text := []
  fallbackLinkTypes : List Text := []
  entities : Entities := {}
  presentSections : List Text := []
  itemKeys : List Text := []
  canContinueItem : Bool := false
  objectKeys : List Text := []
  deriving Repr

namespace Suggestion

/-- What is typed of a key, without a dash before it and a colon after it, in lower case. -/
def normalizeTyped (typed : Text) : Text :=
  let undashed := match typed with
    | '-' :: rest => rest
    | t => t
  Text.lower (Text.strip (Text.withoutLast ':' undashed))

@[simp] theorem normalizeTyped_nil : normalizeTyped [] = [] := rfl

/-- The text begins, in lower case, with what is typed. -/
def matchesTyped (typed t : Text) : Bool := typed.isPrefixOf (Text.lower t)

@[simp] theorem matchesTyped_nil (t : Text) : matchesTyped [] t = true := by simp [matchesTyped]

/-- The types of the first source that has any: the request's own, the catalog's, the fallback. -/
def typesOf (own : List Text) (catalog : Option (List Text)) (fallback : List Text) : List Text :=
  if !own.isEmpty then Catalog.normalizeTexts own
  else match catalog with
    | some (first :: others) => first :: others
    | _ => Catalog.normalizeTexts fallback

def nodeTypes (source : SuggestionSource) : List Text :=
  typesOf source.nodeTypes (source.catalog.map (·.nodeTypes)) source.fallbackNodeTypes

def linkTypes (source : SuggestionSource) : List Text :=
  typesOf source.linkTypes (source.catalog.map (·.linkTypes)) source.fallbackLinkTypes

/-- The types that begin with what is typed, in lower case. -/
def types (values : List Text) (typed : Text) : List Text :=
  values.filter fun value => (Text.lower typed).isPrefixOf value

/-- The node names that begin with what is typed; a colon once a name is typed in full, and nothing
after the colon, for ports are free. -/
def endpoints (typed : Text) (entities : Entities) (endpoint : Option Endpoint) : List Text :=
  let wanted := Text.lower typed
  if ':' ∈ wanted then []
  else if endpoint.isSome && !wanted.isEmpty &&
      entities.nodeNames.any (fun name => Text.lower name == wanted) then [":"]
  else entities.nodeNames.filter (matchesTyped wanted)

/-- The sections of the root that are not there yet and begin with what is typed. -/
def rootKeys (source : SuggestionSource) (typed : Text) : List Text :=
  let wanted := normalizeTyped typed
  source.spec.rootSectionsOrDefault.filter fun name =>
    !source.presentSections.contains name && matchesTyped wanted name

/-- The sections of the root that are not there yet, as written on a padding line. -/
def rootItemKeys (source : SuggestionSource) : List Text :=
  (source.spec.rootSectionsOrDefault.filter fun name =>
    !name.isEmpty && !source.presentSections.contains name).map fun name => "- " ++ name ++ [':']

/-- The keys of a section's items, none for the root. -/
def keysOf (spec : Option ItemSpec) : List Text := (spec.map ItemSpec.offeredKeys).getD []

/-- The first key that is not used yet and begins with what is typed. -/
def nextKey (spec : Option ItemSpec) (used : List Text) (typed : Text) : List Text :=
  let wanted := normalizeTyped typed
  (((keysOf spec).filter fun key => !used.contains key).filter (matchesTyped wanted)).take 1

/-- The key that opens an item of a section. -/
def startKey (spec : Option ItemSpec) (area : Section) : Text :=
  match spec.bind (·.startKey) with
  | some (first :: rest) => first :: rest
  | _ => if area = .nodes then "name" else "from"

/-- The keys that can follow in an item: none after a node's last key, and none twice. -/
def continuationKeys (spec : Option ItemSpec) (area : Section) (used : List Text) : List Text :=
  if area = .nodes ∧ Item.terminalKey ∈ used then []
  else (keysOf spec).filter fun key => key != startKey spec area && !used.contains key

/-- A new item, then the keys that can follow in the present one. -/
def itemKeys (source : SuggestionSource) (area : Section) (typed : Text) : List Text :=
  let spec := source.spec.itemSpec? area
  let wanted := normalizeTyped typed
  let start := startKey spec area
  let opening := if matchesTyped wanted start then [("- ".toList ++ start)] else []
  let following :=
    if source.canContinueItem then
      (continuationKeys spec area source.itemKeys).filter (matchesTyped wanted)
    else []
  opening ++ following.map fun key => "  ".toList ++ key

/-- The texts offered in a context. -/
def offered (context : EditingContext) (source : SuggestionSource) : List Text :=
  match context.kind with
  | .nodeTypeValue => types (nodeTypes source) context.typed
  | .linkTypeValue => types (linkTypes source) context.typed
  | .endpointValue => endpoints context.typed source.entities context.endpoint
  | .rootKey => rootKeys source context.typed
  | .rootItemKey => rootItemKeys source
  | .itemKey => itemKeys source context.area context.typed
  | .key =>
    if context.area.isCollection then
      nextKey (source.spec.itemSpec? context.area) source.objectKeys context.typed
    else []
  | .none => []

end Suggestion
end GraphCompletion
