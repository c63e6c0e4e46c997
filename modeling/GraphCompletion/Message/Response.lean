import GraphCompletion.Insertion
import GraphCompletion.KeyPress
import GraphCompletion.Marker
import GraphCompletion.Message.Reading

/-!
# Responses

What a client is told: the completions at a caret, what a key does, and where diagnostics stand. A
response can be read back from its fields, with the defaults of those that are left out.
-/
namespace GraphCompletion

/-- A completion with the text that accepting it splices in. -/
structure CompletionItem where
  label : Text
  insertion : Insertion
  documentation : Text := []
  asksAgain : Bool := false
  title : Text := []
  deriving DecidableEq, Repr

/-- The completions at a caret. -/
structure CompletionResponse where
  context : EditingContext
  items : List CompletionItem := []
  deriving DecidableEq, Repr

/-- What Enter does. -/
structure EnterResponse where
  handled : Bool
  editId : Text := []
  text : Text := []
  trigger : Text := "enter"
  deriving DecidableEq, Repr

/-- What Backspace does. -/
structure BackspaceResponse where
  handled : Bool
  editId : Text := []
  startColumn : Int
  endColumn : Int
  trigger : Text := "backspace"
  deriving DecidableEq, Repr

/-- What a key does. -/
inductive KeyPressResponse where
  | enter (response : EnterResponse)
  | backspace (response : BackspaceResponse)
  deriving DecidableEq, Repr

namespace EnterResponse

/-- A plan told to the client. -/
def ofPlan (plan : KeyPress.EnterPlan) : EnterResponse :=
  ⟨plan.handled, plan.editId, plan.text, plan.trigger⟩

end EnterResponse

namespace BackspaceResponse

/-- A plan told to the client. -/
def ofPlan (plan : KeyPress.BackspacePlan) : BackspaceResponse :=
  ⟨plan.handled, plan.editId, plan.startColumn, plan.endColumn, plan.trigger⟩

end BackspaceResponse

namespace KeyPressResponse

def handled : KeyPressResponse → Bool
  | enter response => response.handled
  | backspace response => response.handled

def editId : KeyPressResponse → Text
  | enter response => response.editId
  | backspace response => response.editId

end KeyPressResponse

open Message

namespace EditingContext

def ofFields (fields : Fields) : Checked EditingContext :=
  EditingContext.mk <$> required fields "kind" (readNamed ContextKind.word ContextKind.all)
    <*> required fields "section" (readNamed Section.word Section.all)
    <*> defaulted fields "prefix" readText []
    <*> defaulted fields "endpoint" (readOptional (readNamed Endpoint.word Endpoint.all)) none

end EditingContext

namespace CompletionItem

def ofFields (fields : Fields) : Checked CompletionItem :=
  (fun label insertText isSnippet documentation asksAgain title =>
      ⟨label, ⟨insertText, isSnippet⟩, documentation, asksAgain, title⟩)
    <$> required fields "label" readText
    <*> required fields "insert_text" readText
    <*> defaulted fields "insert_as_snippet" readTruth false
    <*> defaulted fields "documentation" readText []
    <*> defaulted fields "trigger_suggest" readTruth false
    <*> defaulted fields "command_title" readText []

end CompletionItem

namespace CompletionResponse

def ofFields (fields : Fields) : Checked CompletionResponse :=
  CompletionResponse.mk <$> required fields "context" (readRecord EditingContext.ofFields)
    <*> defaulted fields "suggestions" (readList (readRecord CompletionItem.ofFields)) []

end CompletionResponse

namespace EnterResponse

def ofFields (fields : Fields) : Checked EnterResponse :=
  EnterResponse.mk <$> required fields "should_handle" readTruth
    <*> defaulted fields "edit_id" readText []
    <*> defaulted fields "insert_text" readText []
    <*> defaulted fields "trigger_source" readText "enter"

end EnterResponse

namespace BackspaceResponse

def ofFields (fields : Fields) : Checked BackspaceResponse :=
  BackspaceResponse.mk <$> required fields "should_handle" readTruth
    <*> defaulted fields "edit_id" readText []
    <*> required fields "delete_start_column" readWhole
    <*> required fields "delete_end_column" readWhole
    <*> defaulted fields "trigger_source" readText "backspace"

end BackspaceResponse

namespace Marker

def ofFields (fields : Fields) : Checked Marker :=
  let position (name : Text) : Checked Int := required fields name readWhole
  Marker.mk <$> required fields "severity" (readNamed Severity.word Severity.all)
    <*> required fields "message" readText
    <*> required fields "source" readText
    <*> position "start_line_number"
    <*> position "start_column"
    <*> position "end_line_number"
    <*> position "end_column"

end Marker
end GraphCompletion
