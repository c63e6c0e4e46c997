import GraphCompletion.Lines

/-!
# Markers

A diagnostic becomes a marker on the document: its lines are moved into the document, and it spans
one column at least, also on an empty line. Without a document the lines are left as they are.
-/
namespace GraphCompletion

/-- How serious a diagnostic is. -/
inductive Severity where
  | error
  | warning
  | info
  deriving DecidableEq, Repr

namespace Severity

/-- The name an editor knows the severity by. -/
def word : Severity → Text
  | error => "Error"
  | warning => "Warning"
  | info => "Info"

/-- The severity of a validator's word; every word but two stands for an error. -/
def ofWord (word : Text) : Severity :=
  if word = "warning".toList then warning else if word = "info".toList then info else error

/-- The severities, most serious first. -/
def all : List Severity := [error, warning, info]

end Severity

/-- A validator's finding. A position that is missing or zero is unknown. -/
structure Diagnostic where
  message : Text
  severity : Text := "error"
  source : Option Text := none
  lineNumber : Option Int := none
  endLineNumber : Option Int := none
  column : Option Int := none
  endColumn : Option Int := none
  deriving DecidableEq, Repr

/-- A finding placed on the document. -/
structure Marker where
  severity : Severity
  message : Text
  source : Text
  startLineNumber : Int
  startColumn : Int
  endLineNumber : Int
  endColumn : Int
  deriving DecidableEq, Repr

namespace Marker

/-- The source of diagnostics that name none. -/
def defaultSource : Text := "GraphAutocompleteCore"

/-- A position that is known, else the fallback. -/
def known (position : Option Int) (fallback : Int) : Int :=
  match position with
  | none => fallback
  | some n => if n = 0 then fallback else n

/-- The text that is given, else the fallback. -/
def given (text : Option Text) (fallback : Text) : Text :=
  match text with
  | none => fallback
  | some t => if t.isEmpty then fallback else t

/-- At most the number of lines, if there are any. -/
def withinLines (lines : List Text) (lineNumber : Int) : Int :=
  if lines.isEmpty then lineNumber else min lines.length lineNumber

/-- The marker of a diagnostic on a document. -/
def ofDiagnostic (d : Diagnostic) (lines : List Text) (source : Text) : Marker :=
  let startLine := withinLines lines (max 1 (known d.lineNumber 1))
  let endLine := max startLine (withinLines lines (known d.endLineNumber startLine))
  let line := Lines.get lines (startLine - 1)
  let column := known d.column 1
  let leastEnd := max 2 (column + 1)
  { severity := .ofWord d.severity
    message := d.message
    source := given d.source source
    startLineNumber := startLine
    startColumn := max 1 column
    endLineNumber := endLine
    endColumn := max leastEnd (min (line.length + 1) (known d.endColumn leastEnd)) }

end Marker
end GraphCompletion
