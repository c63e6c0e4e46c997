import GraphCompletion.Datum.Basic
import GraphCompletion.Yaml.Node
import GraphCompletion.Yaml.Scalar

/-!
# Documents

A loaded document is a graph of cells: scalars, sequences, mappings, sets and lists of pairs. A cell
is known by its number, and a cell may be reached on several ways or contain itself. A mapping keeps
the place of a key where it stands first and the value it is given last; what is merged into a
mapping comes before its own entries.
-/
namespace GraphCompletion.Yaml

/-- A part of a document. The members of a set and the keys of a mapping are scalars. -/
inductive Cell where
  | scalar (value : Scalar)
  | sequence (items : List Nat)
  | mapping (entries : List (Nat × Nat))
  | members (keys : List Nat)
  | pairs (entries : List (Nat × Nat))
  deriving DecidableEq, Repr

/-- A loaded document. -/
structure Document where
  cells : Array Cell
  root : Nat
  deriving DecidableEq, Repr

namespace Document

/-- The cell with a number; an unknown number is that of a null. -/
def cell (d : Document) (id : Nat) : Cell := d.cells.getD id (.scalar .null)

/-- The document that holds nothing but null. -/
def null : Document := ⟨#[.scalar .null], 0⟩

/-- The text in a cell, if it holds one. -/
def text? (d : Document) (id : Nat) : Option Text :=
  match d.cell id with
  | .scalar (.text t) => some t
  | _ => none

/-- What is in a cell can be written out, if it is a scalar. -/
def isWritable (d : Document) (id : Nat) : Bool :=
  match d.cell id with
  | .scalar value => value.isWritable
  | _ => true

/-- The value of a mapping under a text. -/
def field? (d : Document) (id : Nat) (name : Text) : Option Nat :=
  match d.cell id with
  | .mapping entries => (entries.find? fun entry => d.text? entry.1 = some name).map (·.2)
  | _ => none

/-- The items of a list under a text in a mapping. A list of pairs is a list, but holds no items. -/
def listField? (d : Document) (id : Nat) (name : Text) : Option (List Nat) :=
  match (d.field? id name).map d.cell with
  | some (.sequence items) => some items
  | some (.pairs _) => some []
  | _ => none

def isMapping (d : Document) (id : Nat) : Bool :=
  match d.cell id with
  | .mapping _ => true
  | _ => false

end Document

/-- A document under construction: its nodes, merged as far as needed, the cells that are begun, and
the collections that are still to be filled, first come first served. -/
structure Construction where
  nodes : Array Node
  cells : Array (Option Cell)
  waiting : List Nat := []

/-- A step of the construction. -/
abbrev Construct := StateT Construction (Except Fault)

namespace Construct

def node (id : Nat) : Construct Node := do pure ((← get).nodes.getD id default)

def setNode (id : Nat) (node : Node) : Construct Unit :=
  modify fun s => { s with nodes := s.nodes.setIfInBounds id node }

def setCell (id : Nat) (cell : Cell) : Construct Unit :=
  modify fun s => { s with cells := s.cells.setIfInBounds id (some cell) }

/-- The text of a node that a scalar's tag is given to. A mapping may name its text by the sign of a
default value. -/
def scalarText : (fuel : Nat) → Nat → Construct Text
  | 0, _ => throw .depth
  | fuel + 1, id => do
    match ← node id with
    | .scalar _ text => pure text
    | .sequence .. => throw .construction
    | .mapping _ entries =>
      let nodes := (← get).nodes
      match entries.find? fun entry => (nodes.getD entry.1 default).tag = Tag.value with
      | some entry => scalarText fuel entry.2
      | none => throw .construction

/-- The tags of collections, whose values are begun first and filled later. -/
def collectionTags : List Text := [Tag.seq, Tag.map, Tag.set, Tag.omap, Tag.pairs]

/-- The tags of scalars. -/
def scalarTags : List Text :=
  [Tag.null, Tag.bool, Tag.int, Tag.float, Tag.timestamp, Tag.binary, Tag.str]

/-- The empty collection of a tag. -/
def emptyCell (tag : Text) : Cell :=
  if tag = Tag.map then .mapping []
  else if tag = Tag.set then .members []
  else if tag = Tag.seq then .sequence []
  else .pairs []

/-- The value of a scalar's tag for a node. -/
def scalarOf (id : Nat) (node : Node) : Construct Scalar := do
  let text ← scalarText ((← get).nodes.size + 1) id
  match node with
  | .scalar tag _ => Scalar.ofTagged tag text
  | node => if node.tag = Tag.timestamp then throw .mappingTimestamp else Scalar.ofTagged node.tag text

/-- Begins the value of a node, unless that is done. Scalars are finished at once. -/
def begin (id : Nat) : Construct Unit := do
  if (((← get).cells.getD id none).isSome) then pure ()
  else
    let node ← node id
    if collectionTags.contains node.tag then
      setCell id (emptyCell node.tag)
      modify fun s => { s with waiting := s.waiting ++ [id] }
    else if scalarTags.contains node.tag then setCell id (.scalar (← scalarOf id node))
    else throw .construction

/-- The entries of a mapping node. -/
def entriesOf (id : Nat) : Construct (List (Nat × Nat)) := do
  match ← node id with
  | .mapping _ entries => pure entries
  | _ => throw .construction

/-- The entries that a merge key refers to, merged themselves first: those of a mapping, or of the
mappings of a sequence, the last one first. -/
def referred (flatten : Nat → Construct Unit) (value : Nat) : Construct (List (Nat × Nat)) := do
  let merged (id : Nat) : Construct (List (Nat × Nat)) := do
    let _ ← entriesOf id
    flatten id
    entriesOf id
  match ← node value with
  | .sequence _ items => do
    let parts ← items.mapM merged
    pure parts.reverse.flatten
  | _ => merged value

/-- Replaces the merge keys of a mapping by what they refer to, put before its own entries. The sign of
a default value is a text when it is a key. -/
def flatten : (fuel : Nat) → Nat → Construct Unit
  | 0, _ => throw .depth
  | fuel + 1, id => do
    match ← node id with
    | .mapping tag entries =>
      let nodes := (← get).nodes
      let keyTag (entry : Nat × Nat) : Text := (nodes.getD entry.1 default).tag
      let own := entries.filter fun entry => keyTag entry != Tag.merge
      setNode id (.mapping tag own)
      for entry in own do
        if keyTag entry = Tag.value then setNode entry.1 ((← node entry.1).withTag Tag.str)
      let merged ← (entries.filter fun entry => keyTag entry == Tag.merge).mapM fun entry =>
        referred (flatten fuel) entry.2
      setNode id (.mapping tag (merged.flatten ++ (← entriesOf id)))
    | _ => pure ()

/-- The scalar of a key; a collection is no key. -/
def keyScalar (id : Nat) : Construct Scalar := do
  match (← get).cells.getD id none with
  | some (.scalar value) => pure value
  | _ => throw .construction

/-- The entries with one more: in the place of the same key, or at the end. -/
def insert (keys : List (Nat × Scalar)) (entries : List (Nat × Nat)) (key : Nat) (scalar : Scalar)
    (value : Nat) : List (Nat × Scalar) × List (Nat × Nat) :=
  match keys.find? fun known => known.1 = key || known.2.sameKey scalar with
  | some known =>
    (keys, entries.map fun entry => if entry.1 = known.1 then (entry.1, value) else entry)
  | none => (keys ++ [(key, scalar)], entries ++ [(key, value)])

/-- Begins the keys and values of a mapping and lists them, each key once. -/
def fillEntries : List (Nat × Nat) → List (Nat × Scalar) → List (Nat × Nat) →
    Construct (List (Nat × Nat))
  | [], _, entries => pure entries
  | (key, value) :: rest, keys, entries => do
    begin key
    let scalar ← keyScalar key
    begin value
    let (keys, entries) := insert keys entries key scalar value
    fillEntries rest keys entries

/-- Begins the key and the value of each item, a mapping of one entry. -/
def fillPairs : List Nat → Construct (List (Nat × Nat))
  | [] => pure []
  | item :: rest => do
    match ← entriesOf item with
    | [(key, value)] =>
      begin key
      begin value
      pure ((key, value) :: (← fillPairs rest))
    | _ => throw .construction

/-- Fills a collection that is begun. -/
def fill (id : Nat) : Construct Unit := do
  let tag := (← node id).tag
  if tag = Tag.map || tag = Tag.set then
    let _ ← entriesOf id
    flatten ((← get).nodes.size + 1) id
    let entries ← fillEntries (← entriesOf id) [] []
    setCell id (if tag = Tag.map then .mapping entries else .members (entries.map (·.1)))
  else
    match ← node id with
    | .sequence _ items =>
      if tag = Tag.seq then
        items.forM begin
        setCell id (.sequence items)
      else setCell id (.pairs (← fillPairs items))
    | _ => throw .construction

/-- Fills the collections that are begun until none is left. -/
def fillAll : (fuel : Nat) → Construct Unit
  | 0 => pure ()
  | fuel + 1 => do
    match (← get).waiting with
    | [] => pure ()
    | id :: rest =>
      modify fun s => { s with waiting := rest }
      fill id
      fillAll fuel

end Construct

namespace Document

/-- The document of a graph of nodes. -/
def ofNodes (graph : NodeGraph) : Except Fault Document := do
  let build : Construct Unit := do
    Construct.begin graph.root
    Construct.fillAll (graph.nodes.size + 1)
  let (_, done) ← build.run { nodes := graph.nodes, cells := graph.nodes.map fun _ => none }
  pure ⟨done.cells.map fun cell => cell.getD (.scalar .null), graph.root⟩

/-- Loads a text: its only document, null if it has none. -/
def load (text : Text) : Except Fault Document := do
  match ← NodeGraph.ofText text with
  | some graph => ofNodes graph
  | none => pure null

end Document
end GraphCompletion.Yaml
