import GraphCompletion.Yaml.Tag
import GraphCompletion.Yaml.Tokens

/-!
# Nodes of a document

The tokens of a document make up a graph of nodes: scalars, sequences and mappings, each with its tag.
A node is known by its number, so an alias is the number of the node with its anchor, and a node may
be part of itself.
-/
namespace GraphCompletion.Yaml

/-- A node with its tag. -/
inductive Node where
  | scalar (tag text : Text)
  | sequence (tag : Text) (items : List Nat)
  | mapping (tag : Text) (entries : List (Nat × Nat))
  deriving DecidableEq, Repr, Inhabited

namespace Node

def tag : Node → Text
  | scalar tag _ => tag
  | sequence tag _ => tag
  | mapping tag _ => tag

def withTag (tag : Text) : Node → Node
  | scalar _ text => scalar tag text
  | sequence _ items => sequence tag items
  | mapping _ entries => mapping tag entries

end Node

/-- The nodes of a document, and the number of the outermost one. -/
structure NodeGraph where
  nodes : Array Node
  root : Nat
  deriving Repr

/-- A document read as far as its tokens go. -/
structure Composition where
  tokens : List Token
  /-- What is wrong after the last token. -/
  fault : Option Fault
  nodes : Array Node := #[]
  anchors : List (Text × Nat) := []
  handles : List (Text × Text) := Tag.handles

/-- A step of the reading. -/
abbrev Compose := StateT Composition (Except Fault)

namespace Compose

/-- So many levels of collections can be read. Each of them takes its part of the stack, which those that
ask for the document share; the number is for a stack that is else nearly empty. -/
def depthLimit : Nat := 480

/-- The token that comes next, if any does. -/
def peek? : Compose (Option Token) := do
  let s ← get
  match s.tokens, s.fault with
  | token :: _, _ => pure (some token)
  | [], some fault => throw fault
  | [], none => pure none

/-- Past the token that comes next. -/
def drop : Compose Unit := modify fun s => { s with tokens := s.tokens.tail }

/-- Past a given token, which must come next. -/
def expect (token : Token) : Compose Unit := do
  if (← peek?) = some token then drop else throw .grammar

/-- One of these tokens comes next. -/
def nextIn (tokens : List Token) : Compose Bool := do
  pure ((← peek?).any tokens.contains)

/-- A new node, under an anchor if it has one. -/
def add (anchor : Option Text) (node : Node) : Compose Nat := do
  let s ← get
  match anchor with
  | none =>
    set { s with nodes := s.nodes.push node }
    pure s.nodes.size
  | some name =>
    if s.anchors.any fun entry => entry.1 = name then throw .reference
    else
      set { s with nodes := s.nodes.push node, anchors := (name, s.nodes.size) :: s.anchors }
      pure s.nodes.size

/-- Another content for a node that is there. -/
def replace (id : Nat) (node : Node) : Compose Unit :=
  modify fun s => { s with nodes := s.nodes.setIfInBounds id node }

/-- An empty scalar. -/
def empty : Compose Nat := add none (.scalar (Tag.ofPlain []) [])

/-- The node with an anchor. -/
def aliased (name : Text) : Compose Nat := do
  match (← get).anchors.find? fun entry => entry.1 = name with
  | some entry => pure entry.2
  | none => throw .reference

/-- The anchor that comes next. -/
def anchor? : Compose (Option Text) := do
  match ← peek? with
  | some (.anchor name) => drop; pure (some name)
  | _ => pure none

/-- The tag that comes next. -/
def tag? : Compose (Option (Option Text × Text)) := do
  match ← peek? with
  | some (.tag handle suffix) => drop; pure (some (handle, suffix))
  | _ => pure none

/-- A tag with its handle replaced by what that stands for. -/
def resolveTag (tag : Option Text × Text) : Compose Text := do
  match tag.1 with
  | none => pure tag.2
  | some handle =>
    match (← get).handles.find? fun entry => entry.1 = handle with
    | some entry => pure (entry.2 ++ tag.2)
    | none => throw .grammar

/-- Anchor and tag of a node, in either order. -/
def properties : Compose (Option Text × Option Text) := do
  let (anchor, tag) ←
    match ← anchor? with
    | some name => pure (some name, ← tag?)
    | none =>
      match ← tag? with
      | some tag => pure (← anchor?, some tag)
      | none => pure (none, none)
  match tag with
  | none => pure (anchor, none)
  | some tag => pure (anchor, some (← resolveTag tag))

/-- The tag of a collection: a lone exclamation mark stands for the default. -/
def collectionTag (tag : Option Text) (default : Text) : Text :=
  match tag with
  | none => default
  | some tag => if tag = ['!'] then default else tag

/-- The tag of a scalar: told from a plain text, and from any text after a lone exclamation mark. -/
def scalarTag (tag : Option Text) (isPlain : Bool) (text : Text) : Text :=
  match tag with
  | none => if isPlain then Tag.ofPlain text else Tag.str
  | some tag => if tag = ['!'] then Tag.ofPlain text else tag

mutual

/-- A node. A block collection may begin only where `inBlock` says so, a sequence without indentation
only where `indentless` does. -/
def node : (fuel : Nat) → (inBlock indentless : Bool) → (depth : Nat) → Compose Nat
  | 0, _, _, _ => throw .depth
  | fuel + 1, inBlock, indentless, depth => do
    if depthLimit < depth then throw .depth
    match ← peek? with
    | some (.alias name) => drop; aliased name
    | _ =>
      let (anchor, tag) ← properties
      let sequence (items : Compose (List Nat)) : Compose Nat := do
        let tag := collectionTag tag Tag.seq
        let id ← add anchor (.sequence tag [])
        replace id (.sequence tag (← items))
        pure id
      let mapping (entries : Compose (List (Nat × Nat))) : Compose Nat := do
        let tag := collectionTag tag Tag.map
        let id ← add anchor (.mapping tag [])
        replace id (.mapping tag (← entries))
        pure id
      match ← peek? with
      | some .blockEntry =>
        if indentless then sequence (indentlessItems fuel (depth + 1))
        else if anchor.isSome || tag.isSome then add anchor (.scalar (scalarTag tag true []) [])
        else throw .grammar
      | some (.scalar isPlain text) => drop; add anchor (.scalar (scalarTag tag isPlain text) text)
      | some .flowSequenceStart => drop; sequence (flowItems fuel true (depth + 1))
      | some .flowMappingStart => drop; mapping (flowEntries fuel true (depth + 1))
      | some .blockSequenceStart =>
        if inBlock then drop; sequence (blockItems fuel (depth + 1))
        else if anchor.isSome || tag.isSome then add anchor (.scalar (scalarTag tag true []) [])
        else throw .grammar
      | some .blockMappingStart =>
        if inBlock then drop; mapping (blockEntries fuel (depth + 1))
        else if anchor.isSome || tag.isSome then add anchor (.scalar (scalarTag tag true []) [])
        else throw .grammar
      | _ =>
        if anchor.isSome || tag.isSome then add anchor (.scalar (scalarTag tag true []) [])
        else throw .grammar

/-- A node, or an empty scalar before one of the tokens that end its place. -/
def nodeUnless : (fuel : Nat) → (ends : List Token) → (inBlock indentless : Bool) → (depth : Nat) →
    Compose Nat
  | 0, _, _, _, _ => throw .depth
  | fuel + 1, ends, inBlock, indentless, depth => do
    match ← peek? with
    | none => node fuel inBlock indentless depth
    | some token => if ends.contains token then empty else node fuel inBlock indentless depth

/-- The items of a block sequence and its end. -/
def blockItems : (fuel : Nat) → (depth : Nat) → Compose (List Nat)
  | 0, _ => throw .depth
  | fuel + 1, depth => do
    if (← peek?) = some .blockEntry then
      drop
      let item ← nodeUnless fuel [.blockEntry, .blockEnd] true false depth
      pure (item :: (← blockItems fuel depth))
    else
      expect .blockEnd
      pure []

/-- The items of a sequence that is indented like the key it belongs to. -/
def indentlessItems : (fuel : Nat) → (depth : Nat) → Compose (List Nat)
  | 0, _ => throw .depth
  | fuel + 1, depth => do
    if (← peek?) = some .blockEntry then
      drop
      let item ← nodeUnless fuel [.blockEntry, .key, .value, .blockEnd] true false depth
      pure (item :: (← indentlessItems fuel depth))
    else pure []

/-- The entries of a block mapping and its end. -/
def blockEntries : (fuel : Nat) → (depth : Nat) → Compose (List (Nat × Nat))
  | 0, _ => throw .depth
  | fuel + 1, depth => do
    match ← peek? with
    | some .key =>
      drop
      let key ← nodeUnless fuel [.key, .value, .blockEnd] true true depth
      let value ← blockValue fuel depth
      pure ((key, value) :: (← blockEntries fuel depth))
    | _ =>
      expect .blockEnd
      pure []

/-- The value of a block mapping's entry. -/
def blockValue : (fuel : Nat) → (depth : Nat) → Compose Nat
  | 0, _ => throw .depth
  | fuel + 1, depth => do
    if (← peek?) = some .value then
      drop
      nodeUnless fuel [.key, .value, .blockEnd] true true depth
    else empty

/-- The items of a flow sequence and its end; a comma stands before each item but the first. -/
def flowItems : (fuel : Nat) → (first : Bool) → (depth : Nat) → Compose (List Nat)
  | 0, _, _ => throw .depth
  | fuel + 1, first, depth => do
    if (← peek?) = some .flowSequenceEnd then
      drop
      pure []
    else
      if !first then expect .flowEntry
      match ← peek? with
      | some .key =>
        drop
        let id ← add none (.mapping Tag.map [])
        let key ← nodeUnless fuel [.value, .flowEntry, .flowSequenceEnd] false false (depth + 1)
        let value ← flowValue fuel [.flowEntry, .flowSequenceEnd] (depth + 1)
        replace id (.mapping Tag.map [(key, value)])
        pure (id :: (← flowItems fuel false depth))
      | some .flowSequenceEnd =>
        drop
        pure []
      | _ =>
        let item ← node fuel false false depth
        pure (item :: (← flowItems fuel false depth))

/-- The value of an entry in a flow collection. -/
def flowValue : (fuel : Nat) → (ends : List Token) → (depth : Nat) → Compose Nat
  | 0, _, _ => throw .depth
  | fuel + 1, ends, depth => do
    if (← peek?) = some .value then
      drop
      nodeUnless fuel ends false false depth
    else empty

/-- The entries of a flow mapping and its end; a comma stands before each entry but the first. -/
def flowEntries : (fuel : Nat) → (first : Bool) → (depth : Nat) → Compose (List (Nat × Nat))
  | 0, _, _ => throw .depth
  | fuel + 1, first, depth => do
    if (← peek?) = some .flowMappingEnd then
      drop
      pure []
    else
      if !first then expect .flowEntry
      match ← peek? with
      | some .key =>
        drop
        let key ← nodeUnless fuel [.value, .flowEntry, .flowMappingEnd] false false depth
        let value ← flowValue fuel [.flowEntry, .flowMappingEnd] depth
        pure ((key, value) :: (← flowEntries fuel false depth))
      | some .flowMappingEnd =>
        drop
        pure []
      | _ =>
        let key ← node fuel false false depth
        let value ← empty
        pure ((key, value) :: (← flowEntries fuel false depth))

end

/-- The directives before a document, and the handles they give. Two of one kind contradict each
other, and only the first version is known. -/
def directives : (fuel : Nat) → (version : Bool) → (handles : List (Text × Text)) →
    Compose (List (Text × Text))
  | 0, _, handles => pure handles
  | fuel + 1, version, handles => do
    match ← peek? with
    | some (.directive (.version major _)) =>
      drop
      if version || major != 1 then throw .grammar else directives fuel true handles
    | some (.directive (.tag handle stem)) =>
      drop
      if handles.any fun entry => entry.1 = handle then throw .grammar
      else directives fuel version (handles ++ [(handle, stem)])
    | some (.directive (.other _)) =>
      drop
      directives fuel version handles
    | _ => pure handles

/-- Past document ends. -/
def skipDocumentEnds : (fuel : Nat) → Compose Unit
  | 0 => pure ()
  | fuel + 1 => do
    if (← peek?) = some .documentEnd then
      drop
      skipDocumentEnds fuel

/-- Something comes after a document: a fault, whatever it is. -/
def rejectMore (fuel : Nat) : Compose Unit := do
  skipDocumentEnds fuel
  match ← peek? with
  | none => pure ()
  | some _ =>
    let _ ← directives fuel false []
    if (← peek?) = some .documentStart then throw .reference else throw .grammar

/-- A directive comes next. -/
def directiveNext : Compose Bool := do
  match ← peek? with
  | some (.directive _) => pure true
  | _ => pure false

/-- The only document, none when there is nothing but comments. -/
def document (fuel : Nat) : Compose (Option Nat) := do
  if (← peek?).isNone then pure none
  else
    let marked := (← directiveNext) || (← nextIn [.documentStart])
    let root ←
      if marked then do
        let given ← directives fuel false []
        modify fun s => { s with handles := given ++ Tag.handles }
        expect .documentStart
        if (← peek?).isNone || (← directiveNext) || (← nextIn [.documentStart, .documentEnd]) then empty
        else node fuel true false 0
      else node fuel true false 0
    rejectMore fuel
    pure (some root)

end Compose

namespace NodeGraph

/-- The nodes of a text's only document; a text without a document has none. -/
def ofText (text : Text) : Except Fault (Option NodeGraph) := do
  let read := Tokens.ofText text
  let (root, s) ← (Compose.document (4 * read.tokens.length + 8)).run
    { tokens := read.tokens, fault := read.fault }
  pure (root.map fun root => ⟨s.nodes, root⟩)

end NodeGraph
end GraphCompletion.Yaml
