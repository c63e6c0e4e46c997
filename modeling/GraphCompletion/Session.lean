import GraphCompletion.Completion
import GraphCompletion.Log.Record
import GraphCompletion.Message.Request
import GraphCompletion.Message.Response
import GraphCompletion.Settings

/-!
# Sessions

A session serves one open document. It keeps the metadata of the last revision and text asked for in
one slot, and a parse that was shared with it until it is invalidated. What it does it also tells as
events.
-/
namespace GraphCompletion

/-- What a session tells about its work. -/
inductive Event where
  | metadataKept (revision : Revision)
  | metadataRebuilt (revision : Revision)
  /-- The document cannot be loaded; only its lines count. -/
  | documentInvalid
  | completed (kind : ContextKind) (area : Section) (count : Nat)
  | keyPlanned (response : KeyPressResponse)
  | markersBuilt (count : Nat)
  deriving DecidableEq, Repr

/-- The completion state of one document. -/
structure Session where
  indentSize : Int
  slot : Slot := {}
  shared : Option SharedParse := none
  deriving DecidableEq, Repr

/-- What a session can be asked to do. -/
inductive Command where
  | complete (request : CompletionRequest)
  | press (request : KeyPressRequest)
  | invalidate
  | share (parse : Option SharedParse)
  deriving Repr

/-- What a session answers. -/
inductive Answer where
  | completions (response : CompletionResponse)
  | keyPress (response : KeyPressResponse)
  | done
  deriving DecidableEq, Repr

/-- Why a session cannot answer. -/
inductive SessionError where
  | document (fault : Yaml.Fault)
  | catalog (error : Catalog.Error)
  | keyPress (error : KeyPress.Error)
  deriving DecidableEq, Repr

/-- The outcome of a command: the session afterwards, whether it kept the slot that it had, the answer,
and the events. -/
structure Reply where
  session : Session
  slotKept : Bool := true
  answer : Except SessionError Answer
  events : List Event := []

namespace Event

/-- A revision as it is told; an unknown one is told as null. -/
def revisionText : Revision → Text
  | .unknown => Datum.spelling.null
  | .number i => Number.intText i
  | .name t => t

/-- A truth value as it is told. -/
def truthText (b : Bool) : Text := Datum.shown (.bool b)

/-- What stands for the words of the loader in a message. -/
def loaderWords : Text := "<loader error>"

/-- The logger that tells of an event. -/
def logger : Event → Text
  | metadataKept _ | metadataRebuilt _ | documentInvalid => "authoring_engine.graph_yaml.metadata"
  | completed .. | keyPlanned _ => "authoring_backend.services.graph_autocomplete_service"
  | markersBuilt _ => "authoring_backend.services.diagnostic_marker_service"

/-- The words that tell of an event. -/
def message : Event → Text
  | metadataKept revision =>
    "Completion metadata cache hit for version ".toList ++ revisionText revision
  | metadataRebuilt revision =>
    "Completion metadata rebuilt for version ".toList ++ revisionText revision
  | documentInvalid =>
    "Falling back to line scan for completion metadata: Invalid graph YAML: ".toList ++ loaderWords
  | completed kind area count =>
    "Graph YAML autocomplete: kind=".toList ++ kind.word ++ " section=" ++ area.word ++ " count=" ++
      Number.natText count
  | keyPlanned response =>
    let key : Text := match response with
      | .enter _ => "Enter"
      | .backspace _ => "Backspace"
    key ++ " key plan: handle=" ++ truthText response.handled ++ " edit=" ++ response.editId
  | markersBuilt count => "Built ".toList ++ Number.natText count ++ " markers from diagnostics"

/-- The log record of an event. -/
def record (event : Event) : Log.Record := ⟨event.logger, .debug, event.message⟩

/-- The events of finding metadata. -/
def ofProvenance (revision : Revision) : Provenance → List Event
  | .kept => [metadataKept revision]
  | .shared | .loaded => [metadataRebuilt revision]
  | .scanned => [documentInvalid, metadataRebuilt revision]

end Event

namespace CompletionItem

/-- The item of a suggestion. -/
def ofSuggestion (context : EditingContext) (suggestion : Text) (spec : Spec) (indentSize : Int)
    (lines : List Text) (lineNumber : Int) : CompletionItem :=
  let padded := Lines.padTo lines lineNumber
  let number := Lines.clampLineNumber lineNumber padded.length
  let followUp := FollowUp.ofSuggestion context suggestion
  { label := suggestion
    insertion := Insertion.build context suggestion spec indentSize padded number
      (Lines.get padded (number - 1))
    documentation := keyDocumentation followUp.key
    asksAgain := followUp.asksAgain
    title := followUp.title }

end CompletionItem

namespace CompletionRequest

/-- The grammar that counts for the request. -/
def grammar (request : CompletionRequest) : Spec :=
  match request.spec with
  | some spec => spec.completed
  | none => .default

/-- The vocabulary that the request and the settings give. -/
def vocabulary (request : CompletionRequest) (catalog : Catalog) (settings : Settings) : Vocabulary :=
  { catalog
    nodeTypes := request.nodeTypes
    linkTypes := request.linkTypes
    spec := request.grammar
    fallbackNodeTypes := settings.nodeTypes
    fallbackLinkTypes := settings.linkTypes }

/-- The catalog of the request, the empty one if it has none. -/
def readCatalog (request : CompletionRequest) : Except Catalog.Error Catalog :=
  Catalog.ofFields (request.catalog.getD [])

/-- The answer to the request, with the metadata of its text. -/
def answer (request : CompletionRequest) (metadata : Metadata) (settings : Settings)
    (indentSize : Int) : Except Catalog.Error CompletionResponse := do
  let vocabulary := request.vocabulary (← request.readCatalog) settings
  let caret := request.caret
  let completion := Completion.atCaret caret.text caret.lineNumber caret.column metadata indentSize
  pure {
    context := completion.context
    items := (completion.suggestions metadata vocabulary).map fun suggestion =>
      .ofSuggestion completion.context suggestion vocabulary.spec indentSize metadata.lines
        caret.lineNumber }

end CompletionRequest

namespace KeyPressRequest

/-- The answer to the request. -/
def answer (request : KeyPressRequest) (indentSize : Int) :
    Except KeyPress.Error KeyPressResponse :=
  let caret := request.caret
  match request.key with
  | .enter =>
    .ok (.enter (.ofPlan
      (KeyPress.planEnter caret.text caret.lineNumber caret.column indentSize)))
  | .backspace =>
    (KeyPress.planBackspace caret.text caret.lineNumber caret.column indentSize).map fun plan =>
      .backspace (.ofPlan plan)

end KeyPressRequest

namespace Marker

/-- The markers of diagnostics on a text. -/
def build (diagnostics : List Diagnostic) (text : Text) (settings : Settings) : List Marker :=
  let lines := Lines.ofText text
  diagnostics.map fun d => .ofDiagnostic d lines settings.diagnosticSource

end Marker

namespace Session

/-- A session with the indentation given, or the settings' if none or zero is given. -/
def start (indentSize : Option Int) (settings : Settings) : Session :=
  ⟨(indentSize.filter fun size => size != 0).getD settings.indentSize, {}, none⟩

/-- Answers a request for completions. The slot is set before anything else can fail. -/
def complete (session : Session) (request : CompletionRequest) (settings : Settings) : Reply :=
  match session.slot.resolve request.caret.text request.revision session.shared with
  | .error fault => { session, answer := .error (.document fault) }
  | .ok (slot, provenance) =>
    let found := Event.ofProvenance request.revision provenance
    let next := { session with slot }
    let slotKept := provenance = .kept
    match request.answer slot.metadata settings session.indentSize with
    | .error error => { session := next, slotKept, answer := .error (.catalog error), events := found }
    | .ok response =>
      { session := next
        slotKept
        answer := .ok (.completions response)
        events := found ++
          [.completed response.context.kind response.context.area response.items.length] }

/-- Answers a key press. -/
def press (session : Session) (request : KeyPressRequest) : Reply :=
  match request.answer session.indentSize with
  | .error error => { session, answer := .error (.keyPress error) }
  | .ok response => { session, answer := .ok (.keyPress response), events := [.keyPlanned response] }

/-- Does what a command asks for. -/
def run (settings : Settings) (session : Session) : Command → Reply
  | .complete request => session.complete request settings
  | .press request => session.press request
  | .invalidate =>
    { session := ⟨session.indentSize, {}, none⟩, slotKept := false, answer := .ok .done }
  | .share parse => { session := { session with shared := parse }, answer := .ok .done }

end Session
end GraphCompletion
