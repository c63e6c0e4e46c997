import GraphCompletion.Entities.Extraction
import GraphCompletion.Lines
import GraphCompletion.Revision
import GraphCompletion.Yaml.OfDatum

/-!
# Metadata of a document

What completion needs from the whole document: its lines, its entities and the sections at its root.
An invalid document still has lines and headers. One slot keeps the metadata of the last version and
text; another version or text replaces it as a whole.
-/
namespace GraphCompletion

open Yaml

/-- What is known of a whole document. -/
structure Metadata where
  lines : List Text := [[]]
  entities : Entities := {}
  presentSections : List Text := []
  deriving DecidableEq, Repr

/-- A document that was loaded elsewhere. -/
structure SharedParse where
  text : Text
  entities : Entities
  document : Document := .null
  deriving DecidableEq, Repr

/-- The metadata of one version and text. -/
structure Slot where
  revision : Revision := .unknown
  text : Text := []
  metadata : Metadata := {}
  deriving DecidableEq, Repr

/-- Why a document cannot be loaded. -/
inductive LoadError where
  /-- The document is not valid. -/
  | invalid (fault : Fault)
  /-- Something else is wrong: a text does not suit its tag, or a number is too large. -/
  | other (fault : Fault)
  deriving DecidableEq, Repr

/-- Loads a graph document. -/
def loadGraph (text : Text) : Except LoadError Document :=
  match Document.load text with
  | .ok document => .ok document
  | .error fault => .error (if fault.invalidates then .invalid fault else .other fault)

namespace Metadata

/-- The sections that can stand at the root, by their names. -/
def rootCollections : List Text := ["nodes", "links"]

/-- The sections among names, under whichever name they go. -/
def sectionsAmong (names : List Text) : List Text :=
  Text.sortedSet ((names.map Section.canonicalName).filter rootCollections.contains)

/-- What keeps the keys of a document's outermost mapping from being compared with the names of sections.
Every key is written out for that, also one that is no text. -/
def keyFault? (d : Document) : Option Fault :=
  match d.cell d.root with
  | .mapping entries => if entries.all fun entry => d.isWritable entry.1 then none else some .keyTooLong
  | _ => none

/-- The sections that a document's outermost mapping has. Only a text is the name of one. -/
def keySections (d : Document) : List Text :=
  match d.cell d.root with
  | .mapping entries => sectionsAmong (entries.filterMap fun entry => d.text? entry.1)
  | _ => []

/-- The sections with a header that is not indented. -/
def headerSections (lines : List Text) : List Text :=
  sectionsAmong ((lines.filterMap Scope.ofHeader?).filterMap fun scope =>
    if scope.indent = 0 then some scope.area.word else none)

/-- The sections at the root: those of the loaded document, or those of the headers if it has none. -/
def rootSections (lines : List Text) (document : Document) : List Text :=
  match keySections document with
  | [] => headerSections lines
  | present => present

/-- The metadata of a text with the document that it holds. -/
def ofDocument (text : Text) (entities : Entities) (document : Document) : Metadata :=
  let lines := Lines.ofText text
  ⟨lines, entities, rootSections lines document⟩

/-- The metadata of a text with the document that it holds, if the document's keys can be written out. -/
def build (text : Text) (entities : Entities) (document : Document) : Except Fault Metadata :=
  match keyFault? document with
  | some fault => .error fault
  | none => .ok (ofDocument text entities document)

/-- The metadata of a text, and whether only its lines could be used. -/
def ofText (text : Text) : Except Fault (Metadata × Bool) :=
  match loadGraph text with
  | .ok document => (build text (.ofDocument document) document).map fun metadata => (metadata, false)
  | .error (.invalid _) => (build text {} .null).map fun metadata => (metadata, true)
  | .error (.other fault) => .error fault

end Metadata

/-- How the metadata of a request was found. -/
inductive Provenance where
  | kept
  | shared
  | loaded
  | scanned
  deriving DecidableEq, Repr

namespace Slot

/-- The slot for a version and a text: the same one if it holds them, else one with new metadata, from
the shared document if that is of this text. -/
def resolve (slot : Slot) (text : Text) (revision : Revision) (shared : Option SharedParse) :
    Except Fault (Slot × Provenance) :=
  if slot.revision = revision ∧ slot.text = text then .ok (slot, .kept)
  else
    match shared.filter fun parse => parse.text = text with
    | some parse => do
      let metadata ← Metadata.build text parse.entities parse.document
      pure (⟨revision, text, metadata⟩, .shared)
    | none => do
      let (metadata, scanned) ← Metadata.ofText text
      pure (⟨revision, text, metadata⟩, if scanned then .scanned else .loaded)

end Slot
end GraphCompletion
