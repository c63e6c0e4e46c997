import GraphCompletion.Context
import GraphCompletion.Marker
import GraphCompletion.Message.Reading
import GraphCompletion.Revision
import GraphCompletion.Spec

/-!
# Requests

What a client asks: completion at a caret, or what a key does there; and the diagnostics that it
wants placed. Carets past the end of the document are good requests, carets before its start are not.
-/
namespace GraphCompletion

/-- A caret in a text, lines and columns counted from one. -/
structure Caret where
  text : Text := []
  lineNumber : Int := 1
  column : Int := 1
  deriving DecidableEq, Repr

/-- The keys with rules of their own. -/
inductive Key where
  | enter
  | backspace
  deriving DecidableEq, Repr

/-- Asks for the completions at a caret. -/
structure CompletionRequest where
  caret : Caret := {}
  revision : Revision := .unknown
  catalog : Option (List (Text × Datum)) := none
  nodeTypes : List Text := []
  linkTypes : List Text := []
  spec : Option Spec := none
  deriving Repr

/-- Asks what a key does at a caret. -/
structure KeyPressRequest where
  caret : Caret := {}
  key : Key
  deriving DecidableEq, Repr

namespace Key

/-- The name of the key. -/
def word : Key → Text
  | enter => "enter"
  | backspace => "backspace"

def all : List Key := [enter, backspace]

/-- A key by its name, in any case and with white space around it. -/
def ofDatum : Datum → Checked Key
  | .text t =>
    match all.find? fun key => key.word = Text.lower (Text.strip t) with
    | some key => .value key
    | none => .fail .unexpectedWord
  | _ => .fail .unexpectedWord

end Key

open Message

namespace Caret

def ofFields (fields : Fields) : Checked Caret :=
  Caret.mk <$> defaulted fields "text" readText []
    <*> defaulted fields "line_number" (readWholeFrom 1) 1
    <*> defaulted fields "column" (readWholeFrom 1) 1

end Caret

namespace Revision

/-- A revision other than null. A text is a name; what else counts as a whole number is a number. -/
def ofGiven (value : Datum) : Checked Revision :=
  match value with
  | .text t => .value (.name t)
  | value =>
    match readWhole value with
    | .value i => .value (.number i)
    | .issues found =>
      .issues (found.map (fun issue => { issue with path := .reading "int" :: issue.path }) ++
        [⟨[.reading "str"], .notText⟩])

def ofDatum : Datum → Checked Revision
  | .null => .value .unknown
  | value => ofGiven value

end Revision

namespace ItemSpec

def ofMessage (fields : Fields) : Checked ItemSpec :=
  ItemSpec.ofTexts <$> required fields "ordered_keys" (readList readText)
    <*> defaulted fields "required_keys" (readList readText) []
    <*> required fields "entry_start_key" readText

end ItemSpec

namespace Spec

/-- The grammar of a message as it is given: a section's keys may be left out. -/
def ofMessage (fields : Fields) : Checked Spec :=
  (fun names node link => ⟨some names, node, link⟩)
    <$> defaulted fields "root_sections" (readList readText) ["nodes", "links"]
    <*> defaulted fields "node" (readOptional (readRecord ItemSpec.ofMessage)) none
    <*> defaulted fields "link" (readOptional (readRecord ItemSpec.ofMessage)) none

end Spec

namespace CompletionRequest

def ofFields (fields : Fields) : Checked CompletionRequest :=
  CompletionRequest.mk <$> Caret.ofFields fields
    <*> defaulted fields "version" Revision.ofDatum .unknown
    <*> defaulted fields "profile_catalog" (readOptional readMapping) none
    <*> defaulted fields "node_type_suggestions" (readList readText) []
    <*> defaulted fields "link_type_suggestions" (readList readText) []
    <*> defaulted fields "spec" (readOptional (readRecord Spec.ofMessage)) none

def ofDatum : Datum → Checked CompletionRequest := readRecord ofFields

end CompletionRequest

namespace KeyPressRequest

def ofFields (fields : Fields) : Checked KeyPressRequest :=
  KeyPressRequest.mk <$> Caret.ofFields fields <*> required fields "key" Key.ofDatum

def ofDatum : Datum → Checked KeyPressRequest := readRecord ofFields

end KeyPressRequest

namespace Diagnostic

def ofFields (fields : Fields) : Checked Diagnostic :=
  let position (name : Text) : Checked (Option Int) := defaulted fields name (readOptional readWhole) none
  Diagnostic.mk <$> required fields "message" readText
    <*> defaulted fields "severity" readText "error"
    <*> defaulted fields "source" (readOptional readText) none
    <*> position "line_number"
    <*> position "end_line_number"
    <*> position "column"
    <*> position "end_column"

def ofDatum : Datum → Checked Diagnostic := readRecord ofFields

end Diagnostic
end GraphCompletion
