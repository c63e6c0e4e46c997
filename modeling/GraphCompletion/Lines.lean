import GraphCompletion.Line

/-!
# Lines of a document

A document is its lines, of which there is always one at least. Line indices count from zero and line
numbers and columns from one; both may lie outside the document. Every upward scan is a search in
`upTo`, the numbered lines from an index to the top, nearest first.
-/
namespace GraphCompletion.Lines

/-- The lines of a text. -/
def ofText (text : Text) : List Text := Text.splitOn '\n' text

/-- The line at an index, empty where the document has none. -/
def get (lines : List Text) (index : Int) : Text :=
  if 0 ≤ index then lines.getD index.toNat [] else []

/-- The lines at or above an index with their own indices, nearest first. -/
def upTo (lines : List Text) (index : Int) : List (Text × Nat) :=
  (lines.zipIdx.take (index + 1).toNat).reverse

/-- The nearest line at or above an index that is not blank. -/
def previousContent? (lines : List Text) (index : Int) : Option (Text × Nat) :=
  (upTo lines index).find? fun entry => !Line.isBlank entry.1

/-- The index of the first line that is not blank. -/
def firstContent? (lines : List Text) : Option Nat :=
  lines.findIdx? fun line => !Line.isBlank line

/-- The index of the last line that is not blank. -/
def lastContent? (lines : List Text) : Option Nat :=
  (previousContent? lines lines.length).map (·.2)

/-- The first and the last line that are not blank. -/
def contentBounds? (lines : List Text) : Option (Nat × Nat) := do
  pure (← firstContent? lines, ← lastContent? lines)

/-- A blank line before the first or after the last line of a document that has content. -/
def isRootBoundary (lines : List Text) (index : Int) : Bool :=
  0 ≤ index && index < lines.length && Line.isBlank (get lines index) &&
    match contentBounds? lines with
    | some (first, last) => index < first || last < index
    | none => false

/-- The lines with empty ones added below until a line number can be addressed. -/
def padTo (lines : List Text) (lineNumber : Int) : List Text :=
  lines ++ List.replicate (lineNumber - lines.length).toNat []

/-- The line number moved into a document of so many lines. -/
def clampLineNumber (lineNumber : Int) (count : Nat) : Int := max 1 (min lineNumber count)

/-- The column moved onto a line or just past its end. -/
def clampColumn (column : Int) (line : Text) : Int := max 1 (min column (line.length + 1))

theorem ofText_ne_nil (text : Text) : ofText text ≠ [] := Text.splitOn_ne_nil _ _

theorem length_padTo (lines : List Text) (lineNumber : Int) :
    ((padTo lines lineNumber).length : Int) = max (lines.length : Int) lineNumber := by
  simp only [padTo, List.length_append, List.length_replicate]
  omega

theorem padTo_of_le {lines : List Text} {lineNumber : Int} (inside : lineNumber ≤ lines.length) :
    padTo lines lineNumber = lines := by
  have none_added : (lineNumber - lines.length).toNat = 0 := by omega
  simp [padTo, none_added]

theorem clampColumn_bounds (column : Int) (line : Text) :
    1 ≤ clampColumn column line ∧ clampColumn column line ≤ line.length + 1 := by
  simp only [clampColumn]
  omega

theorem mem_upTo_iff {lines : List Text} {index : Int} {entry : Text × Nat} :
    entry ∈ upTo lines index ↔ lines[entry.2]? = some entry.1 ∧ (entry.2 : Int) ≤ index := by
  obtain ⟨line, i⟩ := entry
  simp only [upTo, List.mem_reverse, List.mem_take_iff_getElem, List.getElem_zipIdx,
    List.length_zipIdx]
  constructor
  · rintro ⟨j, bound, same⟩
    simp only [Prod.mk.injEq] at same
    obtain ⟨rfl, rfl⟩ := same
    refine ⟨by simp, by omega⟩
  · rintro ⟨held, bound⟩
    obtain ⟨inside, same⟩ := List.getElem?_eq_some_iff.1 held
    exact ⟨i, by omega, by simp [same]⟩

end GraphCompletion.Lines
