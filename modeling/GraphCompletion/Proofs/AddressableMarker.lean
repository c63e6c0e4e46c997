import GraphCompletion.Proofs.MarkerRange

/-!
# Addressable markers

Whatever positions a diagnostic gives, missing, zero or negative ones among them, its marker covers a
range that an editor can show. Those ranges are also exactly the ones that are kept when they are placed
on the same document, so a marker that is placed once stays where it is.
-/
namespace GraphCompletion.Range

variable {range : Range} {lines : List Text} {d : Diagnostic}

/-- One column at least, from a first line to one that is not above it. On a document the range ends on
one of its lines, and no further right than behind its first line, unless that is where it starts. -/
structure Addressable (range : Range) (lines : List Text) : Prop where
  firstLine : 1 ≤ range.startLine
  ordered : range.startLine ≤ range.endLine
  firstColumn : 1 ≤ range.startColumn
  filled : range.startColumn + 1 ≤ range.endColumn
  lastLine : lines ≠ [] → range.endLine ≤ lines.length
  lastColumn : range.endColumn ≤
    max (range.startColumn + 1) ((Lines.get lines (range.startLine - 1)).length + 1)

theorem one_le_withinLines {n : Int} (first : 1 ≤ n) : 1 ≤ Marker.withinLines lines n := by
  cases lines with
  | nil => exact first
  | cons line rest =>
    simp only [Marker.withinLines, List.isEmpty_cons, Bool.false_eq_true, if_false, List.length_cons]
    omega

theorem withinLines_le_length (n : Int) (filled : lines ≠ []) :
    Marker.withinLines lines n ≤ lines.length := by
  rw [Marker.withinLines, List.isEmpty_eq_false_iff.2 filled]
  exact Int.min_le_left _ _

theorem addressable_ofDiagnostic (d : Diagnostic) (lines : List Text) (source : Text) :
    (Marker.ofDiagnostic d lines source).range.Addressable lines where
  firstLine := one_le_withinLines (Int.le_max_left _ _)
  ordered := Int.le_max_left _ _
  firstColumn := Int.le_max_left _ _
  filled := by
    -- The least end column follows the column that is given, the start column is at least the first.
    simp only [Marker.range, Marker.ofDiagnostic]
    omega
  lastLine := fun present =>
    Int.max_le.2 ⟨withinLines_le_length _ present, withinLines_le_length _ present⟩
  lastColumn := by
    simp only [Marker.range, Marker.ofDiagnostic]
    omega

/-- A range is kept exactly if it is addressable. -/
theorem range_ofDiagnostic_eq_iff (spans : d.Spans range) (source : Text) :
    (Marker.ofDiagnostic d lines source).range = range ↔ range.Addressable lines := by
  constructor
  · intro kept
    rw [← kept]
    exact addressable_ofDiagnostic d lines source
  · rintro ⟨firstLine, ordered, firstColumn, filled, lastLine, lastColumn⟩
    have positive : max 1 range.startLine = range.startLine := by omega
    have above : Marker.withinLines lines range.startLine = range.startLine :=
      withinLines_eq fun present => Int.le_trans ordered (lastLine present)
    have below : Marker.withinLines lines range.endLine = range.endLine := withinLines_eq lastLine
    have start : max 1 range.startColumn = range.startColumn := by omega
    have last : max range.startLine range.endLine = range.endLine := by omega
    have least : max 2 (range.startColumn + 1) = range.startColumn + 1 := by omega
    have ends : max (range.startColumn + 1)
        (min ((Lines.get lines (range.startLine - 1)).length + 1) range.endColumn) = range.endColumn := by
      omega
    simp only [Marker.range, Marker.ofDiagnostic, spans.startLine, spans.startColumn, spans.endLine,
      spans.endColumn, known_some (show range.startLine ≠ 0 by omega),
      known_some (show range.startColumn ≠ 0 by omega), known_some (show range.endLine ≠ 0 by omega),
      known_some (show range.endColumn ≠ 0 by omega), positive, above, below, start, last, least, ends]

/-- The marker of any diagnostic covers an addressable range, with a document or without one, which has no
lines then. A diagnostic on the range of a marker gets a marker on that range again. -/
theorem marker_addressable_and_stable (d : Diagnostic) (document : Option (List Text)) (source : Text) :
    let lines := document.getD []
    let marker := Marker.ofDiagnostic d lines source
    marker.range.Addressable lines ∧
      ∀ (again : Diagnostic) (source' : Text), again.Spans marker.range →
        (Marker.ofDiagnostic again lines source').range = marker.range := by
  intro lines marker
  have addressable : marker.range.Addressable lines := addressable_ofDiagnostic d lines source
  exact ⟨addressable, fun _ source' spans => (range_ofDiagnostic_eq_iff spans source').2 addressable⟩

/-- A diagnostic below the document, which ends above it and starts left of the first column: it is moved
to the last line, and stays there. -/
theorem marker_stable_on_last_line :
    let lines : List Text := ["ab", "c"]
    let stray : Diagnostic :=
      { message := "m", lineNumber := some 9, endLineNumber := some (-4), column := some (-3),
        endColumn := some 40 }
    let marker := Marker.ofDiagnostic stray lines Marker.defaultSource
    marker.range = ⟨2, 1, 2, 2⟩ ∧
      (Marker.ofDiagnostic marker.range.diagnosed lines Marker.defaultSource).range = ⟨2, 1, 2, 2⟩ := by
  intro lines stray marker
  have placed : marker.range = ⟨2, 1, 2, 2⟩ := by decide
  obtain ⟨_, stable⟩ := marker_addressable_and_stable stray (some lines) Marker.defaultSource
  have spans : marker.range.diagnosed.Spans marker.range := ⟨rfl, rfl, rfl, rfl⟩
  exact ⟨placed, (stable marker.range.diagnosed Marker.defaultSource spans).trans placed⟩

end GraphCompletion.Range
