import GraphCompletion.Proofs.LineBreak
import GraphCompletion.Proofs.TypedValue
import GraphCompletion.Proofs.ValueFollowUp

/-!
# Collections opened from a key

A key of a mapping that names a collection is written as a header with a first item below it. The
header takes the indentation of the caret's line, the item always that of the first level. So the item
belongs to the new header on a line that is indented less than that level only, and no key of a mapping
is typed there: what governs the item instead is what would govern the caret's line at that level.
-/
namespace GraphCompletion

variable {text label : Text} {lineNumber column indentSize : Int} {index : Nat} {area : Section}
  {spec : Spec}

namespace Insertion

/-- The sections that a key opens. -/
def openedSections : List (Text × Section) := [("nodes", .nodes), ("links", .links)]

theorem isCollectionKey_of_mem_openedSections (opens : (label, area) ∈ openedSections) :
    isCollectionKey label = true ∧ (label, area) ∈ Section.headers := by
  simp only [openedSections, List.mem_cons, Prod.mk.injEq, List.not_mem_nil, or_false] at opens
  rcases opens with ⟨rfl, rfl⟩ | ⟨rfl, rfl⟩ <;> decide

/-- A collection's key is inserted as if its line were not indented. -/
theorem text_ofSuggestion_collection {context : EditingContext} (asked : context.kind = .key)
    (opens : (label, area) ∈ openedSections) (spec : Spec) (indentSize : Int) (lines : List Text)
    (lineNumber : Int) :
    (CompletionItem.ofSuggestion context label spec indentSize lines lineNumber).insertion.text =
      headerLine 0 label ++ '\n' :: itemLine indentSize (startKeyText spec label) := by
  obtain ⟨collection, member⟩ := isCollectionKey_of_mem_openedSections opens
  have isWord := Scope.isWord_of_mem_headers member
  unfold CompletionItem.ofSuggestion build
  simp only [asked, Label.ofText_word isWord, collection, if_true, collectionText_eq, Int.zero_add]

end Insertion

namespace CompletionItem

/-- What accepting a collection's key makes of the caret's line: a header at the line's indentation,
and below it an item at the first level with whatever stood right of the caret. -/
theorem lines_acceptTyped_collection {context : EditingContext} (asked : context.kind = .key)
    (starts : spec.HasWordStarts) (opens : (label, area) ∈ Insertion.openedSections)
    (lineNumber column indentSize : Int) :
    let lines := Lines.ofText text
    let index := Lines.caretIndex lines lineNumber
    let item := ofSuggestion context label spec indentSize lines lineNumber
    let after := Lines.ofText (item.acceptTyped text lineNumber column)
    (∀ i, i < index → after[i]? = lines[i]?) ∧
      Scope.HeaderAt after ⟨area, Line.indent (Lines.get lines index)⟩ index ∧
      ∃ right, after[index + 1]? =
        some (Insertion.itemLine indentSize (Insertion.startKeyText spec label) ++ right) := by
  intro lines index item after
  have inside : index < lines.length := Lines.caretIndex_lt lineNumber (Lines.ofText_ne_nil text)
  have member := (Insertion.isCollectionKey_of_mem_openedSections opens).2
  have inserted : item.insertion.text = Insertion.headerLine 0 label ++
      '\n' :: Insertion.itemLine indentSize (Insertion.startKeyText spec label) :=
    Insertion.text_ofSuggestion_collection asked opens spec indentSize lines lineNumber
  have upper := Insertion.newline_not_mem_headerLine (Scope.isWord_of_mem_headers member) 0
  have lower := Insertion.newline_not_mem_itemLine (starts.isWord_startKeyText label) indentSize
  let line := Lines.get lines index
  let caret := (Lines.clampColumn column line - 1).toNat
  have broken := Lines.getElem?_replaceWithin_break inside (Line.indent line)
    (max (Line.indent line) caret) upper lower
  rw [← inserted] at broken
  refine ⟨fun i above => Lines.getElem?_replace_of_lt inside above, ?_, _, broken.2⟩
  have blank : Text.isBlank (line.take (Line.indent line)) = true :=
    Text.isBlank_take_leadingBlanks line
  have width : (line.take (Line.indent line)).length = Line.indent line :=
    List.length_take_of_le (Text.leadingBlanks_le_length line)
  have header := Insertion.ofHeader?_of_blank blank member
  rw [width, List.append_assoc] at header
  exact ⟨_, broken.1, header⟩

/-- The first item of a collection that is opened from a key of a mapping is never governed by the
header just written. It is governed as the caret's line would be at the first level. -/
theorem first_item_escapes_opened_collection (positive : 1 ≤ indentSize)
    (starts : spec.HasWordStarts) (opens : (label, area) ∈ Insertion.openedSections)
    (asked : (EditingContext.resolve text lineNumber column indentSize).kind = .key) :
    let context := EditingContext.resolve text lineNumber column indentSize
    let lines := Lines.ofText text
    let index := Lines.caretIndex lines lineNumber
    let item := ofSuggestion context label spec indentSize lines lineNumber
    let after := Lines.ofText (item.acceptTyped text lineNumber column)
    Scope.HeaderAt after ⟨area, Line.indent (Lines.get lines index)⟩ index ∧
      Item.DashAt after (index + 1) ∧
      (∀ h scope, Scope.GovernsLine after (index + 1) h scope ↔
        Scope.Governs lines index indentSize h scope) ∧
      ∀ scope, ¬ Scope.GovernsLine after (index + 1) index scope := by
  intro context lines index item after
  have inside : context.area ≠ .root := EditingContext.area_resolve_ne_root (.inr asked)
  obtain ⟨h, scope, governs, _⟩ := EditingContext.exists_governsLine inside
  have deeper : scope.indent + indentSize < Line.indent (Lines.get lines index) :=
    EditingContext.indent_of_key asked governs
  have within : scope.indent < Line.indent (Lines.get lines index) := by omega
  have below : h < index := governs.lt_of_indent_lt within
  have plain := governs.plain below
  obtain ⟨above, header, right, held⟩ := lines_acceptTyped_collection asked starts opens lineNumber
    column indentSize
  have dash := Insertion.isDash_itemLine indentSize (Insertion.startKeyText spec label)
  have solid := Line.isBlank_eq_false_of_isDash dash
  let lower := Insertion.itemLine indentSize (Insertion.startKeyText spec label) ++ right
  have opensItem : Line.isDash lower = true := by rw [Line.isDash_append solid, dash]
  have depth : (Line.indent lower : Int) = indentSize := by
    rw [Line.indent_append solid, Insertion.indent_itemLine]
    omega
  have shallow : ∀ other, Scope.HeaderAt after other index → Line.indent lower ≤ other.indent := by
    intro other found
    obtain rfl := header.unique found
    show Line.indent lower ≤ Line.indent (Lines.get lines index)
    omega
  have governed (h : Nat) (scope : Scope) : Scope.GovernsLine after (index + 1) h scope ↔
      Scope.Governs lines index indentSize h scope := by
    rw [Scope.governsLine_below_iff above plain held (Scope.ofHeader?_of_isDash opensItem) shallow,
      depth]
  refine ⟨header, ⟨_, held, opensItem⟩, governed, ?_⟩
  intro own found
  exact plain own ((governed index own).1 found).header

/-- Links opened in an inner node leave their first item to the outermost nodes. -/
theorem first_link_escapes_to_outer_nodes :
    let text := "nodes:\n  - name: a\n    nodes:\n      - name: b\n        l".toList
    let context := EditingContext.resolve text 5 10 2
    let item := ofSuggestion context "links" .default 2 (Lines.ofText text) 5
    let after := Lines.ofText (item.acceptTyped text 5 10)
    context.kind = .key ∧ Scope.HeaderAt after ⟨.links, 8⟩ 4 ∧ Item.DashAt after 5 ∧
      (∃ outer, Scope.GovernsLine after 5 0 outer) ∧ ∀ scope, ¬ Scope.GovernsLine after 5 4 scope := by
  intro text context item after
  have asked : (EditingContext.resolve text 5 10 2).kind = .key := by decide
  have caret : Lines.caretIndex (Lines.ofText text) 5 = 4 := by decide
  have depth : Line.indent (Lines.get (Lines.ofText text) (4 : Nat)) = 8 := by decide
  have starts : Spec.default.HasWordStarts := Spec.hasWordKeys_default.start
  have opens : ("links".toList, Section.links) ∈ Insertion.openedSections := by decide
  obtain ⟨header, dash, governed, escapes⟩ :=
    first_item_escapes_opened_collection (by decide) starts opens asked
  rw [caret] at header dash governed escapes
  rw [depth] at header
  obtain ⟨outer, governs⟩ :
      ∃ outer, Scope.Governs (Lines.ofText text) (4 : Nat) 2 0 outer :=
    Scope.governingLine?_eq_some_iff.1 (by decide)
  exact ⟨asked, header, dash, ⟨outer, (governed 0 outer).2 governs⟩, escapes⟩

/-- Nodes opened in an item of the first level: the new header is indented by four, and the item that
should be its first belongs to the header above. -/
theorem first_node_stands_beside_opened_nodes :
    let text := "nodes:\n  - name: a\n    n".toList
    let metadata := Metadata.ofDocument text {} .null
    let context := EditingContext.resolve text 3 6 2
    let item := ofSuggestion context "nodes" .default 2 (Lines.ofText text) 3
    let after := Lines.ofText (item.acceptTyped text 3 6)
    context.kind = .key ∧
      Line.indent (Lines.get (Lines.ofText text) 2) ≤ Lines.caretOffset (Lines.ofText text) 3 6 ∧
      (Completion.atCaret text 3 6 metadata 2).suggestions metadata {} = ["nodes"] ∧
      after = ["nodes:", "  - name: a", "    nodes:", "  - name: "] ∧
      Scope.ofHeader? (Lines.get after 2) = some ⟨.nodes, 4⟩ ∧
      Scope.ofLine after 3 (Lines.get after 3) = ⟨.nodes, 0⟩ := by
  decide

end CompletionItem
end GraphCompletion
