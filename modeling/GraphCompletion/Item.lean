import GraphCompletion.Section

/-!
# Items

An item of a collection begins at a dash line. Its keys are those of the dash line and of the lines
below it that are at most one level deeper, up to the next dash at its own depth or the first line
further out. Each key counts once, where it stands first.
-/
namespace GraphCompletion

/-- The keys an item has, and whether further keys may be offered for it. -/
structure ItemContext where
  keys : List Text := []
  canContinue : Bool := false
  deriving DecidableEq, Repr

namespace Item

/-- The key after which an item is thought complete. -/
def terminalKey : Text := "type"

/-- The index of the nearest dash line at or above `index` that stands in a section. -/
def start? (lines : List Text) (index : Int) (area : Section) : Option Nat :=
  if area.isCollection then
    ((Lines.upTo lines index).find? fun (line, i) =>
      Line.isDash line && (Scope.ofLine lines i line).area == area).map (·.2)
  else none

/-- The line ends an item whose dash is indented by `depth`: another dash no deeper, or content
further out. -/
def endsAt (depth : Nat) (line : Text) : Bool :=
  !Line.isBlank line &&
    ((Line.indent line ≤ depth && Line.isDash line) || Line.indent line < depth)

/-- The keys named on lines indented by at most `limit`, each once. -/
def keysWithin (limit : Int) (lines : List Text) : List Text :=
  ((lines.filter fun line => !Line.isBlank line && (Line.indent line : Int) ≤ limit).filterMap
    Line.key?).eraseDups

/-- The keys of the item that the nearest dash line at or above `index` opens, read no further than
the line `last`. -/
def keys (lines : List Text) (index : Int) (area : Section) (last indentSize : Int) : List Text :=
  if area.isCollection then
    match (Lines.upTo lines index).find? fun entry => Line.isDash entry.1 with
    | none => []
    | some (dash, start) =>
      let depth := Line.indent dash
      match (lines.take (last + 1).toNat).drop start with
      | [] => []
      | first :: below =>
        keysWithin (depth + indentSize) (first :: below.takeWhile fun line => !endsAt depth line)
  else []

/-- The keys that the item around a line has up to that line. A lone dash has those of the item
before it, so that the same shape can be filled in again. -/
def context (lines : List Text) (index : Int) (area : Section) (indentSize : Int) : ItemContext :=
  match start? lines index area with
  | none => {}
  | some start =>
    let own := keys lines start area index indentSize
    if !own.isEmpty then ⟨own, true⟩
    else if Line.isLoneDash (Lines.get lines start) then
      match start? lines (start - 1 : Int) area with
      | none => {}
      | some previous => ⟨keys lines previous area (start - 1 : Int) indentSize, true⟩
    else {}

/-- A blank line, deeper than the items of a collection, below an item's last key. -/
def continuesAfterLastKey (lines : List Text) (lineNumber : Int) (area : Section)
    (itemIndent : Int) : Bool :=
  let index := max 0 (lineNumber - 1)
  let line := Lines.get lines index
  Line.isBlank line && itemIndent < Line.indent line && area.isCollection &&
    match Lines.previousContent? lines (index - 1) with
    | none => false
    | some (previous, _) =>
      itemIndent ≤ Line.indent previous && Line.key? previous == some terminalKey

end Item
end GraphCompletion
