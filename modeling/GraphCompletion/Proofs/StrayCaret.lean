import GraphCompletion.Proofs.CaretView

/-!
# Carets outside the document

A caret can be asked for anywhere. Above the document and beside a line it counts as moved onto it.
Below the last line it stands on padding, whatever its column, and nothing is told from it but whether the
document has content at all. So the item around a caret is looked for only where the document has the
line, and on the very line that the context was read on, though each of the two moves the caret by itself.
-/
namespace GraphCompletion

namespace Lines

variable {lines : List Text}

theorem clampColumn_clampColumn (column : Int) (line : Text) :
    clampColumn (clampColumn column line) line = clampColumn column line := by
  simp only [clampColumn]
  omega

theorem caretIndex_clampLineNumber (lines : List Text) (lineNumber : Int) :
    caretIndex lines (clampLineNumber lineNumber lines.length) = caretIndex lines lineNumber := by
  simp only [caretIndex, clampLineNumber]
  omega

/-- Lines that are added have no content. -/
theorem contentAt_padTo_iff {lineNumber : Int} {i : Nat} :
    ContentAt (padTo lines lineNumber) i ↔ ContentAt lines i := by
  constructor
  · rintro ⟨line, held, solid⟩
    rcases Nat.lt_or_ge i lines.length with own | added
    · rw [padTo, List.getElem?_append_left own] at held
      exact ⟨line, held, solid⟩
    · rw [padTo, List.getElem?_append_right added] at held
      obtain rfl := (List.mem_replicate.1 (List.mem_of_getElem? held)).2
      cases solid
  · rintro ⟨line, held, solid⟩
    have own : i < lines.length := (List.getElem?_eq_some_iff.1 held).1
    refine ⟨line, ?_, solid⟩
    rw [padTo, List.getElem?_append_left own]
    exact held

/-- A caret below the last line stands on padding exactly if the document has content. -/
theorem isRootBoundary_padTo_iff {lineNumber : Int} (below : lines.length < lineNumber) :
    isRootBoundary (padTo lines lineNumber) (lineNumber - 1) = true ↔
      ∃ line ∈ lines, Line.isBlank line = false := by
  obtain ⟨index, rfl⟩ : ∃ index : Nat, lineNumber = index + 1 := ⟨(lineNumber - 1).toNat, by omega⟩
  have length := length_padTo lines (index + 1)
  have empty := get_padTo_of_lt below
  rw [Int.add_sub_cancel] at empty ⊢
  have nothingBelow : ¬ ContentBelow (padTo lines (index + 1)) index := by
    rintro ⟨i, later, content⟩
    have inside := content.lt_length
    omega
  rw [isRootBoundary_iff (by omega), empty]
  simp only [nothingBelow, not_false_eq_true, iff_true]
  constructor
  · rintro ⟨_, i, _, content⟩
    obtain ⟨line, held, solid⟩ := contentAt_padTo_iff.1 content
    exact ⟨line, List.mem_of_getElem? held, solid⟩
  · rintro ⟨line, member, solid⟩
    obtain ⟨i, held⟩ := List.mem_iff_getElem?.1 member
    have inside : i < lines.length := (List.getElem?_eq_some_iff.1 held).1
    exact ⟨rfl, i, by omega, contentAt_padTo_iff.2 ⟨line, held, solid⟩⟩

end Lines

namespace EditingContext

variable {text : Text} {lineNumber : Int}

/-- Down to the last line, a caret counts as the one that is moved onto the document. -/
theorem resolve_clamped (column indentSize : Int) (within : lineNumber ≤ (Lines.ofText text).length) :
    let lines := Lines.ofText text
    let number := Lines.clampLineNumber lineNumber lines.length
    resolve text lineNumber column indentSize =
      resolve text number (Lines.clampColumn column (Lines.get lines (number - 1))) indentSize := by
  intro lines number
  have filled : 0 < lines.length := List.length_pos_iff.2 (Lines.ofText_ne_nil text)
  have present : number ≤ lines.length := by
    simp only [number, Lines.clampLineNumber]
    omega
  have place : Lines.caretIndex lines number = Lines.caretIndex lines lineNumber :=
    Lines.caretIndex_clampLineNumber lines lineNumber
  have own : number - 1 = Lines.caretIndex lines lineNumber :=
    (Lines.caretIndex_eq lines lineNumber).symm
  rw [resolve_of_le column indentSize within, resolve_of_le _ indentSize present]
  simp only [lines] at place own ⊢
  simp only [place, own, Lines.clampColumn_clampColumn]

/-- On an empty line outside every collection a section's key is asked for. -/
theorem ofLine_of_root {lines : List Text} (indentSize : Int)
    (root : (Scope.governing lines (lineNumber - 1)
      (Line.indent (Lines.get lines (lineNumber - 1)))).area = .root) :
    ofLine lines lineNumber indentSize [] =
      ⟨if Lines.isRootBoundary lines (lineNumber - 1) then .rootItemKey else .rootKey, .root, [], none⟩ := by
  unfold ofLine
  simp only [root, true_and]
  split
  · rfl
  · rfl

/-- Below the last line neither the column counts nor the indentation: the caret stands on padding, or in
a document without content at its start. -/
theorem resolve_below (column indentSize : Int) (below : (Lines.ofText text).length < lineNumber) :
    resolve text lineNumber column indentSize =
      ⟨if ∃ line ∈ Lines.ofText text, Line.isBlank line = false then .rootItemKey else .rootKey,
        .root, [], none⟩ := by
  rw [resolve_of_lt column indentSize below,
    ofLine_of_root indentSize (Scope.area_governing_of_empty (Lines.get_padTo_of_lt below))]
  simp only [Lines.isRootBoundary_padTo_iff below]

end EditingContext

namespace Completion

variable {text : Text} {lineNumber column indentSize : Int} {metadata : Metadata}

/-- What is found at a caret is read on one line of the document: the context left of the caret, and the
keys of the item around that line, where the context asks for them. -/
structure ReadOn (found : Completion) (lines : List Text) (number column indentSize : Int) : Prop where
  context : found.context =
    EditingContext.ofLine lines number indentSize
      (Text.strip ((Lines.get lines (number - 1)).take
        (Lines.clampColumn column (Lines.get lines (number - 1)) - 1).toNat))
  item : found.item =
    if found.context.kind = .itemKey then Item.context lines (number - 1) found.context.area indentSize
    else {}
  objectKeys : found.objectKeys =
    if found.context.kind = .key then
      Item.keys lines (number - 1) found.context.area (number - 1) indentSize
    else []

theorem readOn_of_le (same : metadata.lines = Lines.ofText text)
    (within : lineNumber ≤ (Lines.ofText text).length) :
    (atCaret text lineNumber column metadata indentSize).ReadOn (Lines.ofText text)
      (Lines.clampLineNumber lineNumber (Lines.ofText text).length) column indentSize := by
  have own := (Lines.caretIndex_eq (Lines.ofText text) lineNumber).symm
  have next : Lines.clampLineNumber lineNumber (Lines.ofText text).length =
      Lines.caretIndex (Lines.ofText text) lineNumber + 1 := by omega
  constructor
  · rw [own, next]
    exact EditingContext.resolve_of_le column indentSize within
  · split
    next asked =>
      rw [own]
      exact item_of_lines same asked
    next other => exact if_neg other
  · split
    next asked =>
      rw [own]
      exact objectKeys_of_lines same asked
    next other => exact if_neg other

/-- Below the last line no keys are looked for. -/
theorem nothing_collected_below (below : (Lines.ofText text).length < lineNumber) :
    let found := atCaret text lineNumber column metadata indentSize
    found.item = {} ∧ found.objectKeys = [] := by
  have context := EditingContext.resolve_below column indentSize below
  unfold atCaret
  simp only [context]
  split
  · exact ⟨rfl, rfl⟩
  · exact ⟨rfl, rfl⟩

/-- A caret with any line number and column is either moved onto a line of the document, where both its
context and the keys around it are read, or it stands below the last line, where the context tells only
whether the document has content and no keys are read. -/
theorem context_and_keys_on_one_line (text : Text) (lineNumber column indentSize : Int) :
    let lines := Lines.ofText text
    let number := Lines.clampLineNumber lineNumber lines.length
    let context := EditingContext.resolve text lineNumber column indentSize
    (lineNumber ≤ lines.length → context =
      EditingContext.resolve text number (Lines.clampColumn column (Lines.get lines (number - 1)))
        indentSize) ∧
    (lines.length < lineNumber → context =
      ⟨if ∃ line ∈ lines, Line.isBlank line = false then .rootItemKey else .rootKey, .root, [], none⟩) ∧
    ∀ metadata : Metadata, metadata.lines = lines →
      let found := atCaret text lineNumber column metadata indentSize
      found.context = context ∧
      (lineNumber ≤ lines.length → found.ReadOn lines number column indentSize) ∧
      (lines.length < lineNumber → found.item = {} ∧ found.objectKeys = []) := by
  intro lines number context
  refine ⟨EditingContext.resolve_clamped column indentSize,
    EditingContext.resolve_below column indentSize, fun metadata same => ⟨rfl, ?_, ?_⟩⟩
  · exact readOn_of_le same
  · exact nothing_collected_below

/-- A caret far right of the last line counts as one at its end; one below the document is on padding. -/
theorem keys_read_on_last_line :
    let text := "nodes:\n  - name: a\n    ".toList
    let metadata := Metadata.ofDocument text {} .null
    (EditingContext.resolve text 3 70 2 = EditingContext.resolve text 3 5 2 ∧
      (atCaret text 3 70 metadata 2).objectKeys = ["name".toList]) ∧
    EditingContext.resolve text 4 70 2 = ⟨.rootItemKey, .root, [], none⟩ ∧
      (atCaret text 4 70 metadata 2).objectKeys = [] := by
  intro text metadata
  obtain ⟨clamped, _, read⟩ := context_and_keys_on_one_line text 3 70 2
  obtain ⟨_, beyond, unread⟩ := context_and_keys_on_one_line text 4 70 2
  have keys := ((read metadata rfl).2.1 (by decide)).objectKeys
  refine ⟨⟨clamped (by decide), ?_⟩, ?_, ((unread metadata rfl).2.2 (by decide)).2⟩
  · rw [keys]
    decide
  · rw [beyond (by decide)]
    decide

end Completion
end GraphCompletion
