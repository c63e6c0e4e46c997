import GraphCompletion.Marker

/-!
# The range of a marker

A diagnostic whose range lies in the document keeps its start and its last line. Its end column is held
to the first line of the range, though, and behind the start column, wherever the range ends: a range
within one line comes out as it is, one over several lines only if its end column also suits the first.
-/
namespace GraphCompletion

/-- A stretch of a document; the end column is the one behind it. -/
structure Range where
  startLine : Int
  startColumn : Int
  endLine : Int
  endColumn : Int
  deriving DecidableEq, Repr

/-- The stretch that a marker covers. -/
def Marker.range (marker : Marker) : Range :=
  ⟨marker.startLineNumber, marker.startColumn, marker.endLineNumber, marker.endColumn⟩

/-- The diagnostic gives its whole range. -/
structure Diagnostic.Spans (d : Diagnostic) (range : Range) : Prop where
  startLine : d.lineNumber = some range.startLine
  startColumn : d.column = some range.startColumn
  endLine : d.endLineNumber = some range.endLine
  endColumn : d.endColumn = some range.endColumn

namespace Range

variable {range : Range} {lines : List Text} {d : Diagnostic}

/-- The columns of a line and the one behind it. -/
def OnLine (lines : List Text) (lineNumber column : Int) : Prop :=
  1 ≤ column ∧ column ≤ (Lines.get lines (lineNumber - 1)).length + 1

/-- A stretch of the document that is not empty. -/
structure In (range : Range) (lines : List Text) : Prop where
  first : 1 ≤ range.startLine
  ordered : range.startLine ≤ range.endLine
  last : range.endLine ≤ lines.length
  startsOnLine : OnLine lines range.startLine range.startColumn
  endsOnLine : OnLine lines range.endLine range.endColumn
  filled : range.startLine = range.endLine → range.startColumn < range.endColumn

/-- The range with its end column moved onto its first line and behind its start. -/
def endedOnFirst (range : Range) (lines : List Text) : Range :=
  { range with
    endColumn := max (range.startColumn + 1)
      (min ((Lines.get lines (range.startLine - 1)).length + 1) range.endColumn) }

theorem known_some {n : Int} (nonzero : n ≠ 0) (fallback : Int) : Marker.known (some n) fallback = n := by
  simp [Marker.known, nonzero]

/-- A line number that is no larger than the last one is kept, and without lines every one is. -/
theorem withinLines_eq {n : Int} (inside : lines ≠ [] → n ≤ lines.length) :
    Marker.withinLines lines n = n := by
  cases lines with
  | nil => rfl
  | cons line rest =>
    have bound := inside (List.cons_ne_nil line rest)
    simp only [Marker.withinLines, List.isEmpty_cons, Bool.false_eq_true, if_false]
    omega

/-- Of a range in the document only the end column is changed. -/
theorem range_ofDiagnostic (spans : d.Spans range) (inside : range.In lines) (source : Text) :
    (Marker.ofDiagnostic d lines source).range = range.endedOnFirst lines := by
  obtain ⟨first, ordered, last, ⟨starts, _⟩, ⟨ends, _⟩, _⟩ := inside
  have positive : max 1 range.startLine = range.startLine := by omega
  have above : Marker.withinLines lines range.startLine = range.startLine :=
    withinLines_eq fun _ => by omega
  have below : Marker.withinLines lines range.endLine = range.endLine := withinLines_eq fun _ => last
  simp only [Marker.range, Marker.ofDiagnostic, spans.startLine, spans.startColumn, spans.endLine,
    spans.endColumn, known_some (show range.startLine ≠ 0 by omega),
    known_some (show range.startColumn ≠ 0 by omega), known_some (show range.endLine ≠ 0 by omega),
    known_some (show range.endColumn ≠ 0 by omega), positive, above, below, endedOnFirst, mk.injEq,
    true_and]
  omega

theorem endedOnFirst_eq_iff (starts : OnLine lines range.startLine range.startColumn) :
    range.endedOnFirst lines = range ↔
      range.startColumn < range.endColumn ∧
        (range.endColumn = range.startColumn + 1 ∨
          range.endColumn ≤ (Lines.get lines (range.startLine - 1)).length + 1) := by
  obtain ⟨_, within⟩ := starts
  have columns : range.endedOnFirst lines = range ↔
      max (range.startColumn + 1)
        (min ((Lines.get lines (range.startLine - 1)).length + 1) range.endColumn) = range.endColumn := by
    constructor
    · intro same
      exact congrArg endColumn same
    · intro same
      rw [endedOnFirst, same]
  rw [columns]
  omega

/-- A diagnostic whose range lies in the document gets a marker from the same start to the same line,
with the end column held to the first line and behind the start. The whole range is kept exactly if its
end column lies behind its start column and on the first line, but for an end right behind the start; so
are all ranges within one line. -/
theorem kept_by_marker_iff (spans : d.Spans range) (inside : range.In lines) (source : Text) :
    let marker := Marker.ofDiagnostic d lines source
    marker.range = range.endedOnFirst lines ∧
      (marker.range = range ↔
        range.startColumn < range.endColumn ∧
          (range.endColumn = range.startColumn + 1 ∨
            range.endColumn ≤ (Lines.get lines (range.startLine - 1)).length + 1)) ∧
      (range.startLine = range.endLine → marker.range = range) := by
  intro marker
  have placed : marker.range = range.endedOnFirst lines := range_ofDiagnostic spans inside source
  refine ⟨placed, ?_, ?_⟩
  · rw [placed]
    exact endedOnFirst_eq_iff inside.startsOnLine
  · intro single
    rw [placed, endedOnFirst_eq_iff inside.startsOnLine]
    have ends := inside.endsOnLine.2
    rw [← single] at ends
    exact ⟨inside.filled single, .inr ends⟩

/-- A finding on a range. -/
def diagnosed (range : Range) : Diagnostic where
  message := "m"
  lineNumber := some range.startLine
  endLineNumber := some range.endLine
  column := some range.startColumn
  endColumn := some range.endColumn

/-- A range over two lines of the same length and one within the second of them are kept. -/
theorem kept_by_marker_on_even_lines :
    let lines : List Text := ["abcd", "abcd"]
    let across : Range := ⟨1, 2, 2, 4⟩
    let within : Range := ⟨2, 1, 2, 5⟩
    (Marker.ofDiagnostic across.diagnosed lines Marker.defaultSource).range = across ∧
      (Marker.ofDiagnostic within.diagnosed lines Marker.defaultSource).range = within := by
  intro lines across within
  have inAcross : across.In lines :=
    ⟨by decide, by decide, by decide, ⟨by decide, by decide⟩, ⟨by decide, by decide⟩, by decide⟩
  have inWithin : within.In lines :=
    ⟨by decide, by decide, by decide, ⟨by decide, by decide⟩, ⟨by decide, by decide⟩, by decide⟩
  have spans (range : Range) : range.diagnosed.Spans range := ⟨rfl, rfl, rfl, rfl⟩
  obtain ⟨_, kept, _⟩ := kept_by_marker_iff (spans across) inAcross Marker.defaultSource
  obtain ⟨_, _, single⟩ := kept_by_marker_iff (spans within) inWithin Marker.defaultSource
  exact ⟨kept.2 (by decide), single rfl⟩

/-- A range from a short line onto a long one is cut short, and one that ends left of the column where it
starts is drawn out past its end. -/
theorem changed_by_marker_over_lines :
    let cut : Range := ⟨1, 1, 2, 8⟩
    let drawn : Range := ⟨1, 4, 2, 2⟩
    (cut.In ["a", "abcdefg"] ∧
      (Marker.ofDiagnostic cut.diagnosed ["a", "abcdefg"] Marker.defaultSource).range = ⟨1, 1, 2, 2⟩) ∧
    (drawn.In ["abcdef", "ab"] ∧
      (Marker.ofDiagnostic drawn.diagnosed ["abcdef", "ab"] Marker.defaultSource).range =
        ⟨1, 4, 2, 5⟩) := by
  intro cut drawn
  have inCut : cut.In ["a", "abcdefg"] :=
    ⟨by decide, by decide, by decide, ⟨by decide, by decide⟩, ⟨by decide, by decide⟩, by decide⟩
  have inDrawn : drawn.In ["abcdef", "ab"] :=
    ⟨by decide, by decide, by decide, ⟨by decide, by decide⟩, ⟨by decide, by decide⟩, by decide⟩
  exact ⟨⟨inCut, by decide⟩, ⟨inDrawn, by decide⟩⟩

end Range
end GraphCompletion
