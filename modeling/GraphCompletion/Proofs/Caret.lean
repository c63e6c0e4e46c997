import GraphCompletion.Completion
import GraphCompletion.Proofs.Governing

/-!
# The line of the caret

A caret may stand outside its document, but inside a collection it stands on a line that the document
has. There its context is read from the document's own lines, and its section is that of the header
which governs the caret's line.
-/
namespace GraphCompletion

namespace Lines

/-- The index of the line that a caret with this line number stands on. -/
def caretIndex (lines : List Text) (lineNumber : Int) : Nat :=
  (clampLineNumber lineNumber lines.length - 1).toNat

theorem caretIndex_eq (lines : List Text) (lineNumber : Int) :
    (caretIndex lines lineNumber : Int) = clampLineNumber lineNumber lines.length - 1 := by
  simp only [caretIndex, clampLineNumber]
  omega

theorem caretIndex_lt {lines : List Text} (lineNumber : Int) (filled : lines ≠ []) :
    caretIndex lines lineNumber < lines.length := by
  have positive := List.length_pos_iff.2 filled
  simp only [caretIndex, clampLineNumber]
  omega

/-- A line that is added for a caret below the document is empty. -/
theorem get_padTo_of_lt {lines : List Text} {lineNumber : Int} (below : lines.length < lineNumber) :
    get (padTo lines lineNumber) (lineNumber - 1) = [] := by
  have outside : lines.length ≤ (lineNumber - 1).toNat := by omega
  simp only [get, padTo, List.getD_eq_getElem?_getD, List.getElem?_append_right outside,
    List.getElem?_replicate]
  split
  · split <;> rfl
  · rfl

end Lines

/-- No header stands on an empty line, and none above it is indented less. -/
theorem Scope.area_governing_of_empty {lines : List Text} {index : Int}
    (empty : Lines.get lines index = []) :
    (governing lines index (Line.indent (Lines.get lines index))).area = .root := by
  rw [empty]
  by_contra inside
  obtain ⟨h, governs⟩ := exists_governs inside
  obtain ⟨scope, ⟨line, held, header⟩, reaches⟩ := governs.nearest.holds
  have blank : Line.indent [] = 0 := rfl
  rcases reaches with less | same
  · rw [blank] at less
    omega
  · have line_eq := Lines.get_eq_of_getElem? held
    rw [same, empty] at line_eq
    rw [← line_eq] at header
    simp [ofHeader?_nil] at header

namespace Section

theorem isCollection_of_ne_root {area : Section} (inside : area ≠ .root) :
    area.isCollection = true := by
  cases area with
  | root => exact absurd rfl inside
  | nodes => rfl
  | links => rfl

end Section

namespace EditingContext

variable {lines : List Text} {area : Section} {typed : Text} {context : EditingContext}

theorem area_of_ofValue? (found : ofValue? area typed = some context) : context.area = area := by
  unfold ofValue? at found
  split at found
  · simp only [Option.some.injEq] at found
    rw [← found]
  · simp only [Option.some.injEq] at found
    rw [← found]
  · simp only [Option.some.injEq] at found
    rw [← found]
  · simp at found

theorem area_of_ofKey? {atItemColumn : Bool} (found : ofKey? area atItemColumn typed = some context) :
    context.area = area := by
  unfold ofKey? at found
  split at found
  · simp only [Option.some.injEq] at found
    rw [← found]
  · simp at found
  · simp only [Option.some.injEq] at found
    rw [← found]
  · simp only [Option.some.injEq] at found
    rw [← found]
  · simp at found

/-- A context has the section of its line's scope, whichever rule gave it. -/
theorem area_ofLine (lines : List Text) (lineNumber indentSize : Int) (typed : Text) :
    (ofLine lines lineNumber indentSize typed).area =
      (Scope.governing lines (lineNumber - 1)
        (Line.indent (Lines.get lines (lineNumber - 1)))).area := by
  unfold ofLine
  simp only
  split
  next boundary => exact boundary.1.symm
  next =>
    split
    · rfl
    · cases value : ofValue? _ _ with
      | some found => simpa using area_of_ofValue? value
      | none =>
        cases key : ofKey? _ _ _ with
        | some found => simpa using area_of_ofKey? key
        | none => rfl

/-- The keys of items are asked for inside collections only. -/
theorem area_ne_root_of_kind {lineNumber indentSize : Int} {typed : Text}
    (kind : (ofLine lines lineNumber indentSize typed).kind = .itemKey ∨
      (ofLine lines lineNumber indentSize typed).kind = .key) :
    (ofLine lines lineNumber indentSize typed).area ≠ .root := by
  intro root
  have scope := (area_ofLine lines lineNumber indentSize typed).symm.trans root
  revert kind
  unfold ofLine
  simp only [scope]
  split
  · simp
  · rw [if_neg (by simp)]
    have noValue : ofValue? .root typed = none := by
      unfold ofValue?
      split <;> simp_all
    rw [noValue, Option.none_or]
    cases dash : dashKey? typed <;> cases bare : bareKey? typed <;> simp [ofKey?, dash, bare]

/-- Where a key is asked for, the caret stands in a collection. -/
theorem area_resolve_ne_root {text : Text} {lineNumber column indentSize : Int}
    (kind : (resolve text lineNumber column indentSize).kind = .itemKey ∨
      (resolve text lineNumber column indentSize).kind = .key) :
    (resolve text lineNumber column indentSize).area ≠ .root :=
  area_ne_root_of_kind kind

/-- The context at a caret on one of a document's own lines. -/
theorem ofLines_of_lt {lines : List Text} {i : Nat} (inside : i < lines.length)
    (column indentSize : Int) :
    ofLines lines (i + 1) column indentSize =
      ofLine lines (i + 1) indentSize
        (Text.strip ((Lines.get lines i).take
          (Lines.clampColumn column (Lines.get lines i) - 1).toNat)) := by
  have same : Lines.clampLineNumber (i + 1) lines.length = i + 1 := by
    simp only [Lines.clampLineNumber]
    omega
  have bound : (i : Int) + 1 ≤ lines.length := by omega
  simp only [ofLines, Lines.padTo_of_le bound, same, Int.add_sub_cancel]

/-- At a caret down to the last line, the context is read on the line that the caret is moved to. -/
theorem resolve_of_le {text : Text} {lineNumber : Int} (column indentSize : Int)
    (within : lineNumber ≤ (Lines.ofText text).length) :
    let lines := Lines.ofText text
    let index := Lines.caretIndex lines lineNumber
    let line := Lines.get lines index
    resolve text lineNumber column indentSize =
      ofLine lines (index + 1) indentSize
        (Text.strip (line.take (Lines.clampColumn column line - 1).toNat)) := by
  unfold resolve ofLines
  simp only [Lines.padTo_of_le within, Lines.caretIndex_eq, Int.sub_add_cancel]

/-- At a caret below the last line, the context is read on an empty line. -/
theorem resolve_of_lt {text : Text} {lineNumber : Int} (column indentSize : Int)
    (below : (Lines.ofText text).length < lineNumber) :
    resolve text lineNumber column indentSize =
      ofLine (Lines.padTo (Lines.ofText text) lineNumber) lineNumber indentSize [] := by
  have filled := List.length_pos_iff.2 (Lines.ofText_ne_nil text)
  have last : Lines.clampLineNumber lineNumber
      (Lines.padTo (Lines.ofText text) lineNumber).length = lineNumber := by
    simp only [Lines.clampLineNumber, Lines.length_padTo]
    omega
  unfold resolve ofLines
  simp only [last, Lines.get_padTo_of_lt below, List.take_nil]
  rfl

/-- Inside a collection the caret's line is one of the document's, and the context is read there. -/
theorem resolve_eq_ofLine {text : Text} {lineNumber column indentSize : Int}
    (inside : (resolve text lineNumber column indentSize).area ≠ .root) :
    lineNumber ≤ (Lines.ofText text).length ∧
      resolve text lineNumber column indentSize =
        ofLine (Lines.ofText text) (Lines.caretIndex (Lines.ofText text) lineNumber + 1) indentSize
          (Text.strip ((Lines.get (Lines.ofText text)
            (Lines.caretIndex (Lines.ofText text) lineNumber)).take
              (Lines.clampColumn column (Lines.get (Lines.ofText text)
                (Lines.caretIndex (Lines.ofText text) lineNumber)) - 1).toNat)) := by
  have within : lineNumber ≤ (Lines.ofText text).length := by
    by_contra beyond
    have below : ((Lines.ofText text).length : Int) < lineNumber := by omega
    rw [resolve_of_lt column indentSize below, area_ofLine] at inside
    exact inside (Scope.area_governing_of_empty (Lines.get_padTo_of_lt below))
  exact ⟨within, resolve_of_le column indentSize within⟩

/-- Inside a collection some header governs the caret's line, and gives the context its section. -/
theorem exists_governsLine {text : Text} {lineNumber column indentSize : Int}
    (inside : (resolve text lineNumber column indentSize).area ≠ .root) :
    ∃ h scope, Scope.GovernsLine (Lines.ofText text)
        (Lines.caretIndex (Lines.ofText text) lineNumber) h scope ∧
      scope.area = (resolve text lineNumber column indentSize).area := by
  obtain ⟨_, same⟩ := resolve_eq_ofLine inside
  rw [same, area_ofLine] at inside ⊢
  rw [Int.add_sub_cancel] at inside ⊢
  obtain ⟨h, governs⟩ := Scope.exists_governs inside
  exact ⟨h, _, governs, rfl⟩

end EditingContext

namespace Completion

variable {text : Text} {lineNumber column indentSize : Int}

private theorem index_eq_caretIndex (text : Text) (lineNumber : Int) :
    max 0 (min (lineNumber - 1) ((Lines.ofText text).length - 1)) =
      (Lines.caretIndex (Lines.ofText text) lineNumber : Int) := by
  have filled := List.length_pos_iff.2 (Lines.ofText_ne_nil text)
  rw [Lines.caretIndex_eq]
  simp only [Lines.clampLineNumber]
  omega

variable {metadata : Metadata}

/-- What an item's key is completed with is read at the caret's line. -/
theorem item_of_lines (same : metadata.lines = Lines.ofText text)
    (asked : (EditingContext.resolve text lineNumber column indentSize).kind = .itemKey) :
    (atCaret text lineNumber column metadata indentSize).item =
      Item.context (Lines.ofText text) (Lines.caretIndex (Lines.ofText text) lineNumber)
        (EditingContext.resolve text lineNumber column indentSize).area indentSize := by
  unfold atCaret
  simp only [same, asked, if_true, index_eq_caretIndex]

/-- The keys in use are read at the caret's line, and no further. -/
theorem objectKeys_of_lines (same : metadata.lines = Lines.ofText text)
    (asked : (EditingContext.resolve text lineNumber column indentSize).kind = .key) :
    (atCaret text lineNumber column metadata indentSize).objectKeys =
      Item.keys (Lines.ofText text) (Lines.caretIndex (Lines.ofText text) lineNumber)
        (EditingContext.resolve text lineNumber column indentSize).area
        (Lines.caretIndex (Lines.ofText text) lineNumber) indentSize := by
  unfold atCaret
  simp only [same, asked, if_true, index_eq_caretIndex]

theorem item_atCaret (asked : (EditingContext.resolve text lineNumber column indentSize).kind = .itemKey)
    (entities : Entities) (document : Yaml.Document) :
    (atCaret text lineNumber column (.ofDocument text entities document) indentSize).item =
      Item.context (Lines.ofText text) (Lines.caretIndex (Lines.ofText text) lineNumber)
        (EditingContext.resolve text lineNumber column indentSize).area indentSize :=
  item_of_lines rfl asked

theorem objectKeys_atCaret
    (asked : (EditingContext.resolve text lineNumber column indentSize).kind = .key)
    (entities : Entities) (document : Yaml.Document) :
    (atCaret text lineNumber column (.ofDocument text entities document) indentSize).objectKeys =
      Item.keys (Lines.ofText text) (Lines.caretIndex (Lines.ofText text) lineNumber)
        (EditingContext.resolve text lineNumber column indentSize).area
        (Lines.caretIndex (Lines.ofText text) lineNumber) indentSize :=
  objectKeys_of_lines rfl asked

end Completion
end GraphCompletion
