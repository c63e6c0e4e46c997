import GraphCompletion.Session
import GraphCompletion.Proofs.Caret
import GraphCompletion.Proofs.InsertedLine
import GraphCompletion.Proofs.ItemScan

/-!
# Accepting an item's key

Context, suggestions and insertions keep to one scheme of indentation: items stand one level inside
their header, their keys one level further. Here an accepted key of an item is shown to stay where it
was offered. What carries the argument is how the scan for a header answers when a line changes its
indentation: as before, while no header in between is less indented than the line then is.
-/
namespace GraphCompletion

variable {lines after : List Text} {index h : Nat} {indentSize : Int} {scope : Scope} {key : Text}

namespace Scope

/-- A line keeps its governing header at another indentation, and when it becomes another line, if
that is no header and the headers in between are indented as deep. -/
theorem Governs.rescan {indent newIndent : Int} (governs : Governs lines index indent h scope)
    (below : h < index) (above : ∀ i, i < index → after[i]? = lines[i]?)
    (plain : ∀ other, ¬ HeaderAt after other index) (deeper : (scope.indent : Int) < newIndent)
    (kept : ∀ i other, h < i → i < index → HeaderAt lines other i → newIndent ≤ other.indent) :
    Governs after index newIndent h scope := by
  have same (i : Nat) (bound : i < index) (other : Scope) :
      HeaderAt after other i ↔ HeaderAt lines other i := by
    unfold HeaderAt
    rw [above i bound]
  have header := (same h below scope).2 governs.header
  refine ⟨header, governs.nearest.reached, ⟨scope, header, .inl deeper⟩, ?_⟩
  rintro i later bound ⟨other, found, reaches⟩
  by_cases last : i = index
  · subst last
    exact plain other found
  · have between : i < index := by omega
    have least := kept i other later between ((same i between other).1 found)
    omega

/-- A line that is no header is governed by a header above it that is indented less. -/
theorem GovernsLine.above {line : Text} (governs : GovernsLine lines index h scope)
    (held : lines[index]? = some line) (plain : ofHeader? line = none) :
    h < index ∧ scope.indent < Line.indent line := by
  have reached := governs.nearest.reached
  have below : h ≠ index := by
    rintro rfl
    obtain ⟨_, present, header⟩ := governs.header
    simp_all
  obtain ⟨other, header, reaches⟩ := governs.nearest.holds
  obtain rfl := header.unique governs.header
  rw [Lines.get_eq_of_getElem? held] at reaches
  omega

/-- A line that is indented more than its governing header is another line than the header. -/
theorem GovernsLine.lt_of_indent_lt (governs : GovernsLine lines index h scope)
    (deeper : scope.indent < Line.indent (Lines.get lines index)) : h < index := by
  have reached := governs.nearest.reached
  by_contra other
  obtain rfl : h = index := by omega
  obtain ⟨line, held, header⟩ := governs.header
  obtain ⟨_, _, _, _, _, _, _, depth⟩ := ofHeader?_eq_some header
  rw [Lines.get_eq_of_getElem? held] at deeper
  omega

/-- A line keeps its governing header when it becomes another line of the same indentation that is no
header. -/
theorem GovernsLine.rewritten {line : Text} (governs : GovernsLine lines index h scope)
    (below : h < index) (above : ∀ i, i < index → after[i]? = lines[i]?)
    (held : after[index]? = some line) (plain : ofHeader? line = none)
    (depth : Line.indent line = Line.indent (Lines.get lines index)) :
    GovernsLine after index h scope := by
  unfold GovernsLine
  rw [Lines.get_eq_of_getElem? held, depth]
  apply governs.rescan below above
  · rintro other ⟨line', present, header⟩
    simp_all
  · obtain ⟨other, header, reaches⟩ := governs.nearest.holds
    obtain rfl := header.unique governs.header
    omega
  · intro i other later bound header
    by_contra shallow
    exact governs.nearest.passed i later (by omega) ⟨other, header, .inl (by omega)⟩

end Scope

namespace Item

/-- A governed dash line is where its own item begins. -/
theorem start?_self {line : Text} (held : lines[index]? = some line)
    (opens : Line.isDash line = true) (governs : Scope.GovernsLine lines index h scope) :
    start? lines index scope.area = some index := by
  refine (start?_eq_some_iff governs.isCollection).2 ⟨Int.le_refl _, ?_, ?_⟩
  · exact dashIn_of_governs ⟨line, held, opens⟩ governs
  · intro i later bound
    omega

end Item

namespace Insertion

/-- A new item stands under the header that governed the caret's line. -/
theorem itemLine_governed (governs : Scope.GovernsLine lines index h scope) (below : h < index)
    (positive : 1 ≤ indentSize) (above : ∀ i, i < index → after[i]? = lines[i]?)
    (held : after[index]? = some (itemLine (scope.indent + indentSize) key))
    (kept : ∀ i other, h < i → i < index → Scope.HeaderAt lines other i →
      scope.indent + 2 * indentSize ≤ other.indent) :
    Scope.GovernsLine after index h scope ∧ Item.start? after index scope.area = some index := by
  have dash := isDash_itemLine (scope.indent + indentSize) key
  have stays : Scope.GovernsLine after index h scope := by
    unfold Scope.GovernsLine
    rw [Lines.get_eq_of_getElem? held, indent_itemLine]
    refine governs.rescan below above ?_ (by omega) ?_
    · rintro other ⟨line, present, header⟩
      have opens := Scope.isDash_eq_false_of_ofHeader? header
      rw [held, Option.some.injEq] at present
      simp [← present, dash] at opens
    · intro i other later bound header
      have least := kept i other later bound header
      omega
  exact ⟨stays, Item.start?_self held dash stays⟩

/-- A key that continues an item stands under the header that governed the caret's line. -/
theorem keyLine_governed (governs : Scope.GovernsLine lines index h scope) (below : h < index)
    (positive : 1 ≤ indentSize) (isWord : Text.isWord key = true)
    (noHeader : key ∉ Section.headers.map Prod.fst)
    (above : ∀ i, i < index → after[i]? = lines[i]?)
    (held : after[index]? = some (keyLine (scope.indent + 2 * indentSize) key))
    (kept : ∀ i other, h < i → i < index → Scope.HeaderAt lines other i →
      scope.indent + 2 * indentSize ≤ other.indent) :
    Scope.GovernsLine after index h scope := by
  unfold Scope.GovernsLine
  rw [Lines.get_eq_of_getElem? held, indent_keyLine isWord]
  refine governs.rescan below above ?_ (by omega) ?_
  · rintro other ⟨line, present, header⟩
    rw [held, Option.some.injEq] at present
    rw [← present, ofHeader?_keyLine isWord noHeader] at header
    simp at header
  · intro i other later bound header
    have least := kept i other later bound header
    omega

/-- The first item of a collection that is opened stands under the new header. -/
theorem headerLine_governs {collection : Text} {area : Section} {keyIndent : Int}
    (member : (collection, area) ∈ Section.headers) (inside : 0 ≤ keyIndent)
    (positive : 1 ≤ indentSize) (header : after[index]? = some (headerLine keyIndent collection))
    (item : after[index + 1]? = some (itemLine (keyIndent + indentSize) key)) :
    Scope.GovernsLine after (index + 1) index ⟨area, keyIndent.toNat⟩ ∧
      Item.start? after (index + 1 : Nat) area = some (index + 1) := by
  have dash := isDash_itemLine (keyIndent + indentSize) key
  have opened : Scope.HeaderAt after ⟨area, keyIndent.toNat⟩ index :=
    ⟨_, header, ofHeader?_headerLine member keyIndent⟩
  have governs : Scope.GovernsLine after (index + 1) index ⟨area, keyIndent.toNat⟩ := by
    unfold Scope.GovernsLine
    rw [Lines.get_eq_of_getElem? item, indent_itemLine]
    refine ⟨opened, by omega, ⟨_, opened, .inl (by simp only; omega)⟩, ?_⟩
    rintro i later bound ⟨other, ⟨line, present, found⟩, _⟩
    have last : i = index + 1 := by omega
    subst last
    have opens := Scope.isDash_eq_false_of_ofHeader? found
    rw [item, Option.some.injEq] at present
    simp [← present, dash] at opens
  exact ⟨governs, Item.start?_self item dash governs⟩

/-- An opening key is inserted at the items' column. -/
theorem itemKeyText_opening (governs : Scope.GovernsLine lines index h scope)
    (isWord : Text.isWord key = true) (spec : Spec) (indentSize : Int) :
    itemKeyText (Label.ofText ("- ".toList ++ key)) spec indentSize lines index
      (Lines.get lines index) = itemLine (scope.indent + indentSize) key := by
  unfold itemKeyText
  rw [Label.ofText_opening isWord]
  simp only [governs.governing_eq, if_true]

/-- A following key is inserted one level further in. -/
theorem itemKeyText_following (governs : Scope.GovernsLine lines index h scope)
    (isWord : Text.isWord key = true) (closed : isCollectionKey key = false) (spec : Spec)
    (indentSize : Int) :
    itemKeyText (Label.ofText ("  ".toList ++ key)) spec indentSize lines index
      (Lines.get lines index) = keyLine (scope.indent + 2 * indentSize) key := by
  have level : (scope.indent : Int) + indentSize + indentSize = scope.indent + 2 * indentSize := by
    omega
  unfold itemKeyText
  rw [Label.ofText_following isWord]
  simp only [governs.governing_eq, closed, level, Bool.false_eq_true, if_false, keyLine]

/-- A collection is opened beside its parent or inside the item, never left of the margin. -/
theorem exists_itemKeyText_eq_collectionText (governs : Scope.GovernsLine lines index h scope)
    (isWord : Text.isWord key = true) (opens : isCollectionKey key = true)
    (positive : 1 ≤ indentSize) (spec : Spec) :
    ∃ keyIndent : Int, 0 ≤ keyIndent ∧
      itemKeyText (Label.ofText ("  ".toList ++ key)) spec indentSize lines index
        (Lines.get lines index) = collectionText key spec indentSize keyIndent := by
  unfold itemKeyText
  rw [Label.ofText_following isWord]
  simp only [governs.governing_eq, opens, Bool.false_eq_true, if_false, if_true]
  refine ⟨_, ?_, rfl⟩
  split <;> omega

/-- The session asks for an insertion at the caret's own line. -/
theorem text_ofSuggestion {context : EditingContext} (asked : context.kind = .itemKey)
    (filled : lines ≠ []) {lineNumber : Int} (bound : lineNumber ≤ lines.length) (label : Text)
    (spec : Spec) (indentSize : Int) :
    (CompletionItem.ofSuggestion context label spec indentSize lines lineNumber).insertion.text =
      itemKeyText (Label.ofText label) spec indentSize lines (Lines.caretIndex lines lineNumber)
        (Lines.get lines (Lines.caretIndex lines lineNumber)) := by
  have number := Lines.caretIndex_eq lines lineNumber
  have inside := Lines.caretIndex_lt lineNumber filled
  have same : max 0 (min (Lines.caretIndex lines lineNumber : Int) (lines.length - 1)) =
      Lines.caretIndex lines lineNumber := by omega
  unfold CompletionItem.ofSuggestion build lineFor
  simp only [Lines.padTo_of_le bound, asked, List.isEmpty_iff, filled, if_false, ← number, same]
  split <;> rfl

end Insertion

namespace CompletionItem

/-- The document once the completion is accepted: its text replaces the caret's line. -/
def accept (item : CompletionItem) (text : Text) (lineNumber : Int) : Text :=
  Lines.replace text (Lines.caretIndex (Lines.ofText text) lineNumber) item.insertion.text

/-- An accepted key of an item stays in the collection it was offered in. A new item and a key that
continues one are governed by the header that governed the caret's line, a collection's first item by
the header just inserted, and the scan for an item finds each new dash line itself. -/
theorem accept_itemKey_stays {text : Text} {lineNumber column indentSize : Int}
    {source : SuggestionSource} (positive : 1 ≤ indentSize) (words : source.spec.HasWordKeys)
    (asked : (EditingContext.resolve text lineNumber column indentSize).kind = .itemKey)
    (plain : Scope.ofHeader? (Lines.get (Lines.ofText text)
      (Lines.caretIndex (Lines.ofText text) lineNumber)) = none) :
    let context := EditingContext.resolve text lineNumber column indentSize
    let lines := Lines.ofText text
    let index := Lines.caretIndex lines lineNumber
    ∃ h scope, Scope.GovernsLine lines index h scope ∧ scope.area = context.area ∧
      ((∀ i other, h < i → i < index → Scope.HeaderAt lines other i →
          scope.indent + 2 * indentSize ≤ other.indent) →
        ∀ label ∈ Suggestion.offered context source,
          let item := ofSuggestion context label source.spec indentSize lines lineNumber
          let after := Lines.ofText (item.accept text lineNumber)
          (∃ key, label = "- ".toList ++ key ∧ Scope.GovernsLine after index h scope ∧
            Item.start? after index scope.area = some index) ∨
          (∃ key, label = "  ".toList ++ key ∧
            (key ∉ Section.headers.map Prod.fst → Scope.GovernsLine after index h scope) ∧
            ∀ area, (key, area) ∈ [("nodes".toList, Section.nodes), ("links".toList, .links)] →
              ∃ opened : Scope, opened.area = area ∧
                Scope.GovernsLine after (index + 1) index opened ∧
                Item.start? after (index + 1 : Nat) area = some (index + 1))) := by
  intro context lines index
  have inside : context.area ≠ .root := EditingContext.area_resolve_ne_root (.inl asked)
  have bound : lineNumber ≤ lines.length := (EditingContext.resolve_eq_ofLine inside).1
  have filled : lines ≠ [] := Lines.ofText_ne_nil text
  have present : index < lines.length := Lines.caretIndex_lt lineNumber filled
  obtain ⟨h, scope, governs, sameArea⟩ := EditingContext.exists_governsLine inside
  have below := (governs.above (Lines.getElem?_eq_get present) plain).1
  refine ⟨h, scope, governs, sameArea, ?_⟩
  intro kept label offered item after
  have inserted : item.insertion.text = Insertion.itemKeyText (Label.ofText label) source.spec
      indentSize lines index (Lines.get lines index) :=
    Insertion.text_ofSuggestion asked filled bound label source.spec indentSize
  have above (i : Nat) (less : i < index) : after[i]? = lines[i]? :=
    Lines.getElem?_replace_of_lt present less
  have own (i : Nat) (less : i < (Lines.ofText item.insertion.text).length) :
      after[index + i]? = (Lines.ofText item.insertion.text)[i]? :=
    Lines.getElem?_replace_add present less
  obtain ⟨key, isWord, opening | following⟩ := words.exists_key_of_mem_offered asked offered
  · left
    subst opening
    rw [inserted, Insertion.itemKeyText_opening governs isWord, Insertion.ofText_itemLine isWord] at own
    exact ⟨key, rfl, Insertion.itemLine_governed governs below positive above (own 0 (by simp)) kept⟩
  · right
    subst following
    refine ⟨key, rfl, ?_, ?_⟩
    · intro noHeader
      have closed : Insertion.isCollectionKey key = false := by
        simp_all [Insertion.isCollectionKey, Section.headers]
      rw [inserted, Insertion.itemKeyText_following governs isWord closed,
        Insertion.ofText_keyLine isWord] at own
      exact Insertion.keyLine_governed governs below positive isWord noHeader above
        (own 0 (by simp)) kept
    · intro area opens
      have isCollection : Insertion.isCollectionKey key = true ∧ (key, area) ∈ Section.headers := by
        simp only [List.mem_cons, Prod.mk.injEq, List.not_mem_nil, or_false] at opens
        rcases opens with ⟨rfl, rfl⟩ | ⟨rfl, rfl⟩ <;> decide
      obtain ⟨keyIndent, nonneg, shape⟩ := Insertion.exists_itemKeyText_eq_collectionText governs
        isWord isCollection.1 positive source.spec
      rw [inserted, shape, Insertion.ofText_collectionText words isWord] at own
      exact ⟨_, rfl, Insertion.headerLine_governs isCollection.2 nonneg positive
        (own 0 (by simp)) (own 1 (by simp))⟩

/-- Links opened on the blank line below an item hold the new first item. -/
theorem accept_links_below_item :
    let text := "nodes:\n  - name: a\n  ".toList
    let context := EditingContext.resolve text 3 3 2
    let item := ofSuggestion context "  links".toList .default 2 (Lines.ofText text) 3
    let after := Lines.ofText (item.accept text 3)
    context.kind = .itemKey ∧ ∃ opened : Scope, opened.area = .links ∧
      Scope.GovernsLine after 3 2 opened ∧ Item.start? after 3 .links = some 3 := by
  intro text context item after
  have asked : context.kind = .itemKey := by decide
  have caret : Lines.caretIndex (Lines.ofText text) 3 = 2 := by decide
  have noHeader : (Lines.ofText text)[1]?.bind Scope.ofHeader? = none := by decide
  let source : SuggestionSource := { itemKeys := ["name".toList], canContinueItem := true }
  have words : source.spec.HasWordKeys := Spec.hasWordKeys_default
  obtain ⟨h, scope, _, _, accepted⟩ := accept_itemKey_stays (by decide) words asked (by decide)
  rw [caret] at accepted
  have kept (i : Nat) (other : Scope) (later : h < i) (bound : i < 2)
      (header : Scope.HeaderAt (Lines.ofText text) other i) :
      (scope.indent : Int) + 2 * 2 ≤ other.indent := by
    obtain ⟨line, held, found⟩ := header
    have last : i = 1 := by omega
    rw [last] at held
    simp [held, found] at noHeader
  have offered := accepted kept "  links".toList (by decide)
  refine ⟨asked, ?_⟩
  rcases offered with ⟨key, same, _⟩ | ⟨key, same, _, opens⟩
  · simp at same
  · have links : "  ".toList ++ "links".toList = "  ".toList ++ key := same
    rw [List.append_right_inj] at links
    exact opens .links (by simp [← links])

end CompletionItem
end GraphCompletion
