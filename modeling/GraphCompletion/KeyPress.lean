import GraphCompletion.Context

/-!
# Key presses

What Enter and Backspace do where the editor's own behaviour is not wanted. A plan leaves the key to
the editor or says what to insert or delete; it never touches the document.
-/
namespace GraphCompletion.KeyPress

/-- The edits that Enter can make. -/
inductive EnterEdit where
  | sourceToTarget
  | targetToNextItem
  | labelToNextItem
  deriving DecidableEq, Repr

/-- The edits that Backspace can make. -/
inductive BackspaceEdit where
  | rootBoundary
  | indent
  deriving DecidableEq, Repr

/-- Leave Enter to the editor, or insert a text at the caret. -/
inductive EnterPlan where
  | leave
  | insert (edit : EnterEdit) (text : Text)
  deriving DecidableEq, Repr

/-- Columns to delete on the caret's line, none when the key is left to the editor. -/
structure BackspacePlan where
  edit : Option BackspaceEdit
  startColumn : Int
  endColumn : Int
  deriving DecidableEq, Repr

/-- Why a plan fails. -/
inductive Error where
  | zeroIndent
  deriving DecidableEq, Repr

namespace EnterEdit

def id : EnterEdit → Text
  | sourceToTarget => "link-from-next-to"
  | targetToNextItem => "link-to-next-step"
  | labelToNextItem => "link-label-next-step"

def trigger : EnterEdit → Text
  | sourceToTarget | targetToNextItem => "enter-next-to"
  | labelToNextItem => "enter-after-label"

end EnterEdit

namespace EnterPlan

def handled : EnterPlan → Bool
  | leave => false
  | insert .. => true

def editId : EnterPlan → Text
  | leave => []
  | insert edit _ => edit.id

def text : EnterPlan → Text
  | leave => []
  | insert _ text => text

def trigger : EnterPlan → Text
  | leave => "enter"
  | insert edit _ => edit.trigger

end EnterPlan

namespace BackspaceEdit

def id : BackspaceEdit → Text
  | rootBoundary => "root-boundary-backspace"
  | indent => "indent-backspace"

def trigger : BackspaceEdit → Text
  | rootBoundary => "backspace-root-boundary"
  | indent => "backspace"

end BackspaceEdit

namespace BackspacePlan

def handled (plan : BackspacePlan) : Bool := plan.edit.isSome
def editId (plan : BackspacePlan) : Text := (plan.edit.map BackspaceEdit.id).getD []
def trigger (plan : BackspacePlan) : Text := (plan.edit.map BackspaceEdit.trigger).getD "backspace"

end BackspacePlan

/-- An endpoint value that names a node, and a port too when a colon was typed. -/
def isCompleteEndpoint (typed : Text) : Bool :=
  let value := Text.strip typed
  !value.isEmpty &&
    match (Text.cutAt ':' value).2 with
    | none => true
    | some port => !Text.isBlank port

/-- The line names a label and gives it a text. -/
def hasLabelText (line : Text) : Bool :=
  match Text.after? "label:" (Text.afterDash (Text.strip line)) with
  | none => false
  | some value => !Text.isBlank value

/-- A line break and an indentation. -/
def newLine (indent : Int) : Text := '\n' :: Text.spaces indent

/-- What Enter does: from a complete source to the target's key below it, from a complete target or a
labelled link to the next item. -/
def planEnter (text : Text) (lineNumber column indentSize : Int) : EnterPlan :=
  let lines := Lines.padTo (Lines.ofText text) lineNumber
  let number := Lines.clampLineNumber lineNumber lines.length
  let line := Lines.get lines (number - 1)
  let context := EditingContext.resolve text number column indentSize
  let indent : Int := Line.indent line
  match context.kind, context.area, context.endpoint, isCompleteEndpoint context.typed with
  | .endpointValue, .links, some .source, true =>
    .insert .sourceToTarget
      (newLine (if Line.isDash line then indent + indentSize else indent) ++ "to: ")
  | .endpointValue, .links, some .target, true =>
    .insert .targetToNextItem (newLine (max 0 (indent - indentSize)))
  | _, .links, _, _ =>
    if hasLabelText line then
      .insert .labelToNextItem
        (newLine (if Line.isDash line then indent else max indentSize (indent - indentSize)))
    else .leave
  | _, _, _, _ => .leave

/-- How many columns Backspace deletes to reach the indent stop before the caret, on a line of white
space only. -/
def deleteCount (line : Text) (column indentSize : Int) : Except Error Int :=
  let caret := max 0 (min (column - 1) line.length)
  let before := line.take caret.toNat
  let after := line.drop caret.toNat
  if before.isEmpty || !Text.isBlank before || !Text.isBlank after then .ok 0
  else if indentSize = 0 then .error .zeroIndent
  else
    let past := Int.fmod caret indentSize
    .ok (if past = 0 then min indentSize caret else past)

/-- What Backspace does: empty a padding line, or go back to an indent stop. -/
def planBackspace (text : Text) (lineNumber column indentSize : Int) : Except Error BackspacePlan := do
  let lines := Lines.padTo (Lines.ofText text) lineNumber
  let index := Lines.clampLineNumber lineNumber lines.length - 1
  let line := Lines.get lines index
  let caret := Lines.clampColumn column line
  let scope := Scope.governing lines index (Line.indent line)
  if scope.area = .root ∧ Lines.isRootBoundary lines index then
    pure ⟨some .rootBoundary, 1, caret⟩
  else
    let count ← deleteCount line caret indentSize
    if count ≤ 0 then pure ⟨none, caret, caret⟩
    else pure ⟨some .indent, max 1 (caret - count), caret⟩

end GraphCompletion.KeyPress
