import GraphCompletion.Proofs.Caret
import GraphCompletion.Proofs.Scans

/-!
# What a context is read from

A context is read from the lines above the caret and the part of its own line left of it. Of the rest
of that line only its indentation counts, whether it is blank, and which collection it heads; of the
lines below only whether any has content, and that for a blank line outside every collection alone.
-/
namespace GraphCompletion

namespace Lines

variable {lines : List Text} {index : Nat}

/-- A line that is not blank stands at the index. -/
def ContentAt (lines : List Text) (i : Nat) : Prop :=
  ∃ line, lines[i]? = some line ∧ Line.isBlank line = false

/-- A line that is not blank stands above the index. -/
def ContentAbove (lines : List Text) (index : Nat) : Prop := ∃ i < index, ContentAt lines i

/-- A line that is not blank stands below the index. -/
def ContentBelow (lines : List Text) (index : Nat) : Prop := ∃ i > index, ContentAt lines i

theorem contentAt_iff {i : Nat} (inside : i < lines.length) :
    ContentAt lines i ↔ Line.isBlank (get lines i) = false := by
  simp only [ContentAt, getElem?_eq_get inside, Option.some.injEq, exists_eq_left']

theorem ContentAt.lt_length {i : Nat} (content : ContentAt lines i) : i < lines.length := by
  obtain ⟨line, held, _⟩ := content
  exact (List.getElem?_eq_some_iff.1 held).1

theorem contentAbove_congr {others : List Text} (same : lines.take index = others.take index) :
    ContentAbove lines index ↔ ContentAbove others index := by
  have held {i : Nat} (above : i < index) : lines[i]? = others[i]? := by
    rw [← List.getElem?_take_of_lt above, same, List.getElem?_take_of_lt above]
  constructor
  · rintro ⟨i, above, line, present, solid⟩
    exact ⟨i, above, line, (held above).symm.trans present, solid⟩
  · rintro ⟨i, above, line, present, solid⟩
    exact ⟨i, above, line, (held above).trans present, solid⟩

theorem firstContent?_eq_some_iff {first : Nat} :
    firstContent? lines = some first ↔
      ContentAt lines first ∧ ∀ i < first, ¬ ContentAt lines i := by
  unfold firstContent?
  rw [List.findIdx?_eq_some_iff_getElem]
  constructor
  · rintro ⟨inside, solid, passed⟩
    refine ⟨⟨lines[first], List.getElem?_eq_getElem inside, by simpa using solid⟩, ?_⟩
    rintro i earlier ⟨line, held, solid⟩
    obtain ⟨bound, rfl⟩ := List.getElem?_eq_some_iff.1 held
    exact passed i earlier (by simpa using solid)
  · rintro ⟨⟨line, held, solid⟩, passed⟩
    obtain ⟨inside, rfl⟩ := List.getElem?_eq_some_iff.1 held
    refine ⟨inside, by simpa using solid, fun i earlier content => ?_⟩
    have bound : i < lines.length := by omega
    exact passed i earlier ⟨lines[i], List.getElem?_eq_getElem bound, by simpa using content⟩

theorem lastContent?_eq_some_iff {last : Nat} :
    lastContent? lines = some last ↔ Nearest lines.length (ContentAt lines) last :=
  map_find?_upTo_eq_some_iff fun j => by simp [ContentAt]

/-- A document without bounds has no content. -/
theorem not_contentAt_of_contentBounds?_eq_none (none : contentBounds? lines = none) (i : Nat) :
    ¬ ContentAt lines i := by
  intro content
  have first : firstContent? lines ≠ Option.none := by
    obtain ⟨line, held, solid⟩ := content
    unfold firstContent?
    rw [Ne, List.findIdx?_eq_none_iff]
    intro blank
    have own := blank line (List.mem_of_getElem? held)
    simp [solid] at own
  have last : lastContent? lines ≠ Option.none := by
    have bound : (i : Int) ≤ lines.length := by
      have inside := content.lt_length
      omega
    obtain ⟨j, _, nearest⟩ := Nearest.exists_of_holds bound content
    rw [lastContent?_eq_some_iff.2 nearest]
    simp
  obtain ⟨first, found⟩ := Option.ne_none_iff_exists'.1 first
  obtain ⟨last, found'⟩ := Option.ne_none_iff_exists'.1 last
  simp [contentBounds?, found, found'] at none

/-- A blank line is padding around the document's content exactly where it has content on one side
only. -/
theorem isRootBoundary_iff (inside : index < lines.length) :
    isRootBoundary lines index = true ↔
      Line.isBlank (get lines index) = true ∧
        (ContentAbove lines index ↔ ¬ ContentBelow lines index) := by
  unfold isRootBoundary
  simp only [Int.natCast_nonneg, Int.ofNat_lt, inside, decide_true, Bool.true_and, Bool.and_eq_true]
  refine and_congr_right fun blank => ?_
  have own : ¬ ContentAt lines index := by simp [contentAt_iff inside, blank]
  cases bounds : contentBounds? lines with
  | none =>
    have empty := not_contentAt_of_contentBounds?_eq_none bounds
    simp [ContentAbove, ContentBelow, empty]
  | some pair =>
    obtain ⟨first, last⟩ := pair
    have found : firstContent? lines = some first ∧ lastContent? lines = some last := by
      simp only [contentBounds?, Option.pure_def, Option.bind_eq_bind, Option.bind_eq_some_iff,
        Option.some.injEq, Prod.mk.injEq] at bounds
      obtain ⟨_, one, _, two, rfl, rfl⟩ := bounds
      exact ⟨one, two⟩
    obtain ⟨start, before⟩ := firstContent?_eq_some_iff.1 found.1
    have nearest := lastContent?_eq_some_iff.1 found.2
    have above : index < first ↔ ¬ ContentAbove lines index := by
      constructor
      · rintro earlier ⟨i, less, content⟩
        exact before i (by omega) content
      · intro none
        by_contra late
        have apart : first ≠ index := by
          rintro rfl
          exact own start
        exact none ⟨first, by omega, start⟩
    have below : last < index ↔ ¬ ContentBelow lines index := by
      constructor
      · rintro later ⟨i, greater, content⟩
        have bound := content.lt_length
        exact nearest.passed i (by omega) (by omega) content
      · intro none
        by_contra early
        have apart : last ≠ index := by
          rintro rfl
          exact own nearest.holds
        exact none ⟨last, by omega, nearest.holds⟩
    have ordered : ¬ (index < first ∧ last < index) := by
      rintro ⟨earlier, later⟩
      exact before last (by omega) nearest.holds
    simp only [Bool.or_eq_true, decide_eq_true_eq]
    tauto

end Lines

namespace Line

/-- Two lines that read alike from the left of a column: the same characters stand there, and the
lines are indented alike, both blank or both not, and head collections of the same kind or none. -/
structure ReadsAlike (line other : Text) (column : Int) : Prop where
  left : line.take (column - 1).toNat = other.take (column - 1).toNat
  indent : Line.indent line = Line.indent other
  blank : Line.isBlank line = Line.isBlank other
  heads : (Scope.ofHeader? line).map Scope.area = (Scope.ofHeader? other).map Scope.area

/-- A header that opens a section at an indentation is the same scope on either line. -/
theorem ReadsAlike.ofHeader?_eq {line other : Text} {column : Int}
    (alike : ReadsAlike line other column) : Scope.ofHeader? line = Scope.ofHeader? other := by
  have heads := alike.heads
  cases opens : Scope.ofHeader? line with
  | none =>
    rw [opens, Option.map_none] at heads
    exact (Option.map_eq_none_iff.1 heads.symm).symm
  | some scope =>
    rw [opens, Option.map_some] at heads
    obtain ⟨scope', opens', area⟩ := Option.map_eq_some_iff.1 heads.symm
    obtain ⟨_, _, _, _, _, _, _, depth⟩ := Scope.ofHeader?_eq_some opens
    obtain ⟨_, _, _, _, _, _, _, depth'⟩ := Scope.ofHeader?_eq_some opens'
    have indent : scope'.indent = scope.indent := by rw [depth, depth', alike.indent]
    rw [opens']
    cases scope
    cases scope'
    simp_all

end Line

/-- Two documents that a caret at a line and a column sees alike: the caret stands inside both, the
lines above it are the same, and its own lines read alike from its left. -/
structure Lines.SeenAlike (lines others : List Text) (lineNumber column : Int) : Prop where
  onLine : 1 ≤ lineNumber ∧ lineNumber ≤ lines.length ∧ lineNumber ≤ others.length
  onColumn : 1 ≤ column ∧ column ≤ (Lines.get lines (lineNumber - 1)).length + 1 ∧
    column ≤ (Lines.get others (lineNumber - 1)).length + 1
  above : lines.take (lineNumber - 1).toNat = others.take (lineNumber - 1).toNat
  own : Line.ReadsAlike (Lines.get lines (lineNumber - 1)) (Lines.get others (lineNumber - 1)) column

section Congruence

variable {lines others : List Text} {index : Nat} {column : Int}

/-- The governing scope is read from the lines above and from the caret's own header. -/
theorem Scope.governing_congr (inside : index < lines.length) (inside' : index < others.length)
    (above : lines.take index = others.take index)
    (header : ofHeader? (Lines.get lines index) = ofHeader? (Lines.get others index))
    (indent : Int) : governing lines index indent = governing others index indent := by
  have own : governs? index indent (Lines.get lines index, index) =
      governs? index indent (Lines.get others index, index) := by
    unfold governs?
    rw [header]
  unfold governing
  rw [Lines.upTo_eq_cons inside, Lines.upTo_eq_cons inside', List.findSome?_cons,
    List.findSome?_cons, own, Lines.upTo_congr above (by omega)]

theorem Item.continuesAfterLastKey_congr (above : lines.take index = others.take index)
    (own : Line.ReadsAlike (Lines.get lines index) (Lines.get others index) column)
    (area : Section) (itemIndent : Int) :
    continuesAfterLastKey lines (index + 1) area itemIndent =
      continuesAfterLastKey others (index + 1) area itemIndent := by
  have place : max 0 ((index : Int) + 1 - 1) = index := by omega
  have previous : Lines.previousContent? lines (index - 1) =
      Lines.previousContent? others (index - 1) := by
    unfold Lines.previousContent?
    rw [Lines.upTo_congr above (by omega)]
  unfold continuesAfterLastKey
  simp only [place, own.blank, own.indent, previous]

/-- Below a caret only content counts, and on a blank line outside every collection only. -/
theorem EditingContext.ofLine_congr (inside : index < lines.length) (inside' : index < others.length)
    (above : lines.take index = others.take index)
    (own : Line.ReadsAlike (Lines.get lines index) (Lines.get others index) column)
    (typed : Text) (indentSize : Int)
    (below : Line.isBlank (Lines.get lines index) = true →
      (ofLine lines (index + 1) indentSize typed).area = .root →
        (Lines.ContentBelow lines index ↔ Lines.ContentBelow others index)) :
    ofLine lines (index + 1) indentSize typed = ofLine others (index + 1) indentSize typed := by
  have scope := Scope.governing_congr inside inside' above own.ofHeader?_eq
    (Line.indent (Lines.get lines index))
  rw [area_ofLine] at below
  unfold ofLine
  simp only [Int.add_sub_cancel] at below ⊢
  simp only [← own.indent, ← scope, Item.continuesAfterLastKey_congr above own]
  generalize Scope.governing lines index (Line.indent (Lines.get lines index)) = governing at below ⊢
  by_cases root : governing.area = .root
  · have boundary : Lines.isRootBoundary lines index = true ↔
        Lines.isRootBoundary others index = true := by
      rw [Lines.isRootBoundary_iff inside, Lines.isRootBoundary_iff inside', ← own.blank,
        Lines.contentAbove_congr above]
      refine and_congr_right fun blank => ?_
      rw [below blank root]
    simp only [root, true_and, boundary]
  · simp only [root, false_and, if_false]

end Congruence

namespace EditingContext

/-- What is typed at a caret inside the document is the stripped text left of it. -/
theorem resolve_of_inside {text : Text} {index : Nat} {column : Int} (indentSize : Int)
    (inside : index < (Lines.ofText text).length)
    (within : 1 ≤ column ∧ column ≤ (Lines.get (Lines.ofText text) index).length + 1) :
    resolve text (index + 1) column indentSize =
      ofLine (Lines.ofText text) (index + 1) indentSize
        (Text.strip ((Lines.get (Lines.ofText text) index).take (column - 1).toNat)) := by
  have same : Lines.clampColumn column (Lines.get (Lines.ofText text) index) = column := by
    simp only [Lines.clampColumn]
    omega
  rw [resolve, ofLines_of_lt inside, same]

/-- Two documents that are seen alike from a caret give it the same context, whatever stands right of
it and below. Only on a blank line outside every collection must both have content below, or neither. -/
theorem resolve_eq_of_seenAlike {text other : Text} {lineNumber column : Int}
    (alike : Lines.SeenAlike (Lines.ofText text) (Lines.ofText other) lineNumber column)
    (indentSize : Int)
    (below : Line.isBlank (Lines.get (Lines.ofText text) (lineNumber - 1)) = true →
      (resolve text lineNumber column indentSize).area = .root →
        (Lines.ContentBelow (Lines.ofText text) (lineNumber - 1).toNat ↔
          Lines.ContentBelow (Lines.ofText other) (lineNumber - 1).toNat)) :
    resolve text lineNumber column indentSize = resolve other lineNumber column indentSize := by
  obtain ⟨⟨first, bound, bound'⟩, ⟨least, width, width'⟩, above, own⟩ := alike
  obtain ⟨index, rfl⟩ : ∃ index : Nat, lineNumber = index + 1 := ⟨(lineNumber - 1).toNat, by omega⟩
  have inside : index < (Lines.ofText text).length := by omega
  have inside' : index < (Lines.ofText other).length := by omega
  simp only [Int.add_sub_cancel, Int.toNat_natCast] at width width' above own below
  rw [resolve_of_inside indentSize inside ⟨least, width⟩] at below ⊢
  rw [resolve_of_inside indentSize inside' ⟨least, width'⟩, ← own.left]
  exact ofLine_congr inside inside' above own _ indentSize below

/-- A blank line between other lines: they may differ below it, and it may end with other white space. -/
theorem resolve_eq_on_blank_line :
    let text := "id: g\n  \nnodes:\n  - name: a".toList
    let other := "id: g\n \t\n\nlinks".toList
    Lines.SeenAlike (Lines.ofText text) (Lines.ofText other) 2 2 ∧
      (resolve text 2 2 2).area = .root ∧
      (Lines.ContentBelow (Lines.ofText text) 1 ∧ Lines.ContentBelow (Lines.ofText other) 1) ∧
      resolve text 2 2 2 = resolve other 2 2 2 := by
  intro text other
  have alike : Lines.SeenAlike (Lines.ofText text) (Lines.ofText other) 2 2 :=
    ⟨by decide, by decide, by decide, ⟨by decide, by decide, by decide, by decide⟩⟩
  have below : Lines.ContentBelow (Lines.ofText text) 1 ∧ Lines.ContentBelow (Lines.ofText other) 1 :=
    ⟨⟨2, by decide, "nodes:".toList, rfl, rfl⟩, ⟨3, by decide, "links".toList, rfl, rfl⟩⟩
  refine ⟨alike, by decide, below, resolve_eq_of_seenAlike alike 2 fun _ _ => ?_⟩
  exact iff_of_true below.1 below.2

end EditingContext
end GraphCompletion
