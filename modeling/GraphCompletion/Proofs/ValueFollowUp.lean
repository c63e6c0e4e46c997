import GraphCompletion.Proofs.ItemInsertion
import GraphCompletion.Proofs.KeyLabels
import GraphCompletion.Proofs.ValueLine

/-!
# Asking again for a value

After some keys the editor asks for suggestions again at once. That helps only if the caret then stands
where the key's value is typed, and the document is read afresh to find that out. So the header that
governs the caret's line is carried through the edit, whether a key is written into the line or a new
line takes its place.
-/
namespace GraphCompletion

variable {key label : Text} {context : EditingContext} {source : SuggestionSource}

/-- Where a key is accepted, the editor asks again only if the key's value has suggestions. -/
theorem FollowUp.key_mem_askingKeys (asked : context.kind = .key ∨ context.kind = .itemKey)
    (again : (ofSuggestion context label).asksAgain = true) :
    (ofSuggestion context label).key ∈ askingKeys := by
  unfold ofSuggestion at again ⊢
  rcases asked with kind | kind
  all_goals
    simp only [kind] at again ⊢
    split at again
    next member =>
      rw [if_pos member]
      simpa using member
    next => cases again

/-- The keys whose values have suggestions open no collection. -/
theorem FollowUp.plain_of_mem_askingKeys (asks : key ∈ askingKeys) :
    Insertion.isCollectionKey key = false ∧ key ∉ Section.headers.map Prod.fst := by
  have each : ∀ other ∈ askingKeys,
      Insertion.isCollectionKey other = false ∧ other ∉ Section.headers.map Prod.fst := by decide
  exact each key asks

namespace Suggestion

/-- In the default grammar the key that opens an item is one of the item's keys. -/
theorem startKey_mem_keysOf {area : Section} (inside : area ≠ .root) :
    startKey (Spec.default.itemSpec? area) area ∈ keysOf (Spec.default.itemSpec? area) := by
  cases area with
  | root => exact absurd rfl inside
  | nodes => decide
  | links => decide

/-- A label that is offered inside a collection names a key of the collection's items. -/
theorem mem_keysOf_of_mem_offered (grammar : source.spec = .default) (inside : context.area ≠ .root)
    (asked : context.kind = .key ∨ context.kind = .itemKey) (member : label ∈ offered context source)
    (named : Names context.kind label key) :
    key ∈ keysOf (Spec.default.itemSpec? context.area) := by
  rcases asked with kind | kind
  · rw [kind] at named
    obtain rfl : label = key := named
    simp only [offered, kind, grammar] at member
    split at member
    · exact mem_keysOf_of_mem_nextKey member
    · cases member
  · rw [kind] at named
    simp only [offered, kind] at member
    have written := mem_itemKeys member
    rw [grammar] at written
    rcases written with opening | ⟨other, known, following⟩
    · have opens : Names .itemKey label (startKey _ context.area) := .inl opening
      obtain rfl := opens.unique named
      exact startKey_mem_keysOf inside
    · have continues : Names .itemKey label other := .inr following
      obtain rfl := continues.unique named
      exact known

end Suggestion

namespace EditingContext

/-- In the default grammar every key after which the editor asks again has a value to ask for, in the
very sections whose items have the key. -/
theorem exists_ofKeyValue? {area : Section}
    (known : key ∈ Suggestion.keysOf (Spec.default.itemSpec? area))
    (asks : key ∈ FollowUp.askingKeys) : ∃ context, ofKeyValue? area key = some context := by
  have each : ∀ other ∈ Suggestion.keysOf (Spec.default.itemSpec? area),
      other ∈ FollowUp.askingKeys → (ofKeyValue? area other).isSome = true := by
    cases area <;> decide
  exact Option.isSome_iff_exists.1 (each key known asks)

/-- Where the editor asks again after an offered label, the label names a key whose value is asked for
in the section that it is offered in. -/
theorem exists_value_of_asksAgain (grammar : source.spec = .default) (inside : context.area ≠ .root)
    (asked : context.kind = .key ∨ context.kind = .itemKey)
    (member : label ∈ Suggestion.offered context source)
    (again : (FollowUp.ofSuggestion context label).asksAgain = true) :
    let key := (FollowUp.ofSuggestion context label).key
    Text.isWord key = true ∧ Suggestion.Names context.kind label key ∧
      ∃ value, ofKeyValue? context.area key = some value := by
  intro key
  have words : source.spec.HasWordNames := grammar ▸ Spec.hasWordNames_default
  have keys : context.kind = .rootKey ∨ context.kind = .rootItemKey ∨ context.kind = .itemKey ∨
      context.kind = .key := .inr (.inr asked.symm)
  obtain ⟨other, isWord, named⟩ := Suggestion.exists_names_of_mem_offered words keys member
  have same : key = other := FollowUp.key_ofSuggestion isWord named
  have known := Suggestion.mem_keysOf_of_mem_offered grammar inside asked member named
  have asks : key ∈ FollowUp.askingKeys := FollowUp.key_mem_askingKeys asked again
  rw [same] at asks ⊢
  exact ⟨isWord, named, exists_ofKeyValue? known asks⟩

/-- Where a key of a mapping is typed, the line is indented further than the collection's items. -/
theorem indent_of_key {text : Text} {lineNumber column indentSize : Int} {h : Nat} {scope : Scope}
    (asked : (resolve text lineNumber column indentSize).kind = .key)
    (governs : Scope.GovernsLine (Lines.ofText text) (Lines.caretIndex (Lines.ofText text) lineNumber)
      h scope) :
    scope.indent + indentSize <
      Line.indent (Lines.get (Lines.ofText text) (Lines.caretIndex (Lines.ofText text) lineNumber)) := by
  rw [(resolve_eq_ofLine (area_resolve_ne_root (.inr asked))).2] at asked
  rcases ofLine_eq_typed (.inr asked) with value | key
  · have isValue := isValue_of_ofValue? value
    rw [asked] at isValue
    cases isValue
  · have right := (kind_of_ofKey? key).2 asked
    rw [governs.governing_eq] at right
    simpa using right

/-- Right behind a key and its colon on a governed line the key's value is asked for. -/
theorem resolve_behind_key {text left right : Text} {index h : Nat} {scope : Scope}
    (held : (Lines.ofText text)[index]? = some (left ++ right))
    (governs : Scope.GovernsLine (Lines.ofText text) index h scope)
    (found : ofKeyValue? scope.area key = some context)
    (cut : Text.afterDash (Text.strip left) = key ++ [':']) (indentSize : Int) :
    resolve text (index + 1) (left.length + 1) indentSize = context :=
  resolve_of_value held governs (ofValue?_of_key_blank found cut rfl) indentSize

end EditingContext

namespace CompletionItem

variable {text : Text} {lineNumber column indentSize : Int} {h index : Nat} {scope : Scope}

/-- The document once the completion is accepted inside the caret's line: its text replaces what stands
between the line's indentation and the caret. -/
def acceptTyped (item : CompletionItem) (text : Text) (lineNumber column : Int) : Text :=
  let index := Lines.caretIndex (Lines.ofText text) lineNumber
  let line := Lines.get (Lines.ofText text) index
  let caret := (Lines.clampColumn column line - 1).toNat
  Lines.replaceWithin text index (Line.indent line) (max (Line.indent line) caret)
    item.insertion.text

/-- A key is inserted with a colon and a blank into the mapping that it belongs to. -/
theorem text_ofSuggestion_key (asked : context.kind = .key) (isWord : Text.isWord key = true)
    (named : Suggestion.Names context.kind label key) (closed : Insertion.isCollectionKey key = false)
    (spec : Spec) (indentSize : Int) (lines : List Text) (lineNumber : Int) :
    (ofSuggestion context label spec indentSize lines lineNumber).insertion.text = key ++ ": " := by
  rw [asked] at named
  obtain rfl : label = key := named
  unfold ofSuggestion Insertion.build
  simp only [asked, Label.ofText_word isWord, closed, Bool.false_eq_true, if_false]

/-- Behind a key that is written into a line, right of its indentation, the key's value is asked for:
whatever else stands on the line, it keeps its governing header. -/
theorem resolve_replaceWithin (governs : Scope.GovernsLine (Lines.ofText text) index h scope)
    (below : h < index) (inside : index < (Lines.ofText text).length)
    (found : EditingContext.ofKeyValue? scope.area key = some context)
    (isWord : Text.isWord key = true) (last : Nat) (indentSize : Int) :
    let indent := Line.indent (Lines.get (Lines.ofText text) index)
    EditingContext.resolve (Lines.replaceWithin text index indent last (key ++ ": ")) (index + 1)
      (indent + (key ++ ": ").length + 1) indentSize = context := by
  intro indent
  let line := Lines.get (Lines.ofText text) index
  let left : Text := line.take indent ++ key ++ ": "
  let after := Lines.replaceWithin text index indent last (key ++ ": ")
  have blank : Text.isBlank (line.take indent) = true := Text.isBlank_take_leadingBlanks line
  have width : (line.take indent).length = indent :=
    List.length_take_of_le (Text.leadingBlanks_le_length line)
  have single : '\n' ∉ key ++ ": ".toList := by
    have own : '\n' ∉ key := Text.not_mem_word isWord (by decide)
    simp [own]
  have held : (Lines.ofText after)[index]? = some (left ++ line.drop last) := by
    have written := Lines.getElem?_replaceWithin inside indent last single
    rwa [← List.append_assoc] at written
  have named : Text.afterDash (Text.strip left) = key ++ [':'] :=
    Insertion.afterDash_strip_named blank isWord
  have value := EditingContext.ofValue?_of_key_blank found named rfl
  -- The indentation is that of before, and what stands right of the caret makes no header of the line.
  have stays : Scope.GovernsLine (Lines.ofText after) index h scope := by
    apply governs.rewritten below _ held (EditingContext.ofHeader?_of_value value _)
    · show Text.leadingBlanks (left ++ line.drop last) = indent
      rw [List.append_assoc, Text.leadingBlanks_append_word blank isWord, width]
    · intro i above
      exact Lines.getElem?_replace_of_lt inside above
  have column : (left.length : Int) + 1 = indent + (key ++ ": ").length + 1 := by
    simp only [left, List.length_append, width]
    omega
  rw [← column]
  exact EditingContext.resolve_behind_key held stays found named indentSize

/-- An item's key whose value is asked for takes the place of the caret's line as one line, and that
line stands under the header that governed the caret's. -/
theorem accept_governed {spec : Spec} (positive : 1 ≤ indentSize) (asked : context.kind = .itemKey)
    (bound : lineNumber ≤ (Lines.ofText text).length)
    (governs : Scope.GovernsLine (Lines.ofText text) (Lines.caretIndex (Lines.ofText text) lineNumber)
      h scope)
    (below : h < Lines.caretIndex (Lines.ofText text) lineNumber)
    (kept : ∀ i other, h < i → i < Lines.caretIndex (Lines.ofText text) lineNumber →
      Scope.HeaderAt (Lines.ofText text) other i → scope.indent + 2 * indentSize ≤ other.indent)
    (isWord : Text.isWord key = true) (named : Suggestion.Names .itemKey label key)
    (asks : key ∈ FollowUp.askingKeys) :
    let item := ofSuggestion context label spec indentSize (Lines.ofText text) lineNumber
    let after := Lines.ofText (item.accept text lineNumber)
    let index := Lines.caretIndex (Lines.ofText text) lineNumber
    after[index]? = some item.insertion.text ∧ Scope.GovernsLine after index h scope ∧
      Text.afterDash (Text.strip item.insertion.text) = key ++ [':'] := by
  intro item after index
  have filled := Lines.ofText_ne_nil text
  have present : index < (Lines.ofText text).length := Lines.caretIndex_lt lineNumber filled
  have inserted : item.insertion.text = Insertion.itemKeyText (Label.ofText label) spec indentSize
      (Lines.ofText text) index (Lines.get (Lines.ofText text) index) :=
    Insertion.text_ofSuggestion asked filled bound label spec indentSize
  have above (i : Nat) (less : i < index) : after[i]? = (Lines.ofText text)[i]? :=
    Lines.getElem?_replace_of_lt present less
  have own (single : Lines.ofText item.insertion.text = [item.insertion.text]) :
      after[index]? = some item.insertion.text := by
    have first : after[index + 0]? = (Lines.ofText item.insertion.text)[0]? :=
      Lines.getElem?_replace_add present (by rw [single]; exact Nat.one_pos)
    rwa [single] at first
  rcases named with rfl | rfl
  · rw [Insertion.itemKeyText_opening governs isWord] at inserted
    have held := own (by rw [inserted]; exact Insertion.ofText_itemLine isWord _)
    rw [inserted] at held ⊢
    have stays := Insertion.itemLine_governed governs below positive above held kept
    exact ⟨held, stays.1, Insertion.afterDash_strip_itemLine isWord _⟩
  · obtain ⟨closed, noHeader⟩ := FollowUp.plain_of_mem_askingKeys asks
    rw [Insertion.itemKeyText_following governs isWord closed] at inserted
    have held := own (by rw [inserted]; exact Insertion.ofText_keyLine isWord _)
    rw [inserted] at held ⊢
    have stays := Insertion.keyLine_governed governs below positive isWord noHeader above held kept
    exact ⟨held, stays, Insertion.afterDash_strip_keyLine isWord _⟩

/-- Whenever the editor asks again after an accepted key, the caret stands where the key's value is
typed: nothing of it is there yet, and its kind is that of the key and the section. In a mapping the key
is written into the caret's line, for an item it takes the line's place. -/
theorem asks_again_at_value (positive : 1 ≤ indentSize) (grammar : source.spec = .default) :
    let context := EditingContext.resolve text lineNumber column indentSize
    let lines := Lines.ofText text
    let index := Lines.caretIndex lines lineNumber
    let line := Lines.get lines index
    ∀ label ∈ Suggestion.offered context source,
      let followUp := FollowUp.ofSuggestion context label
      let item := ofSuggestion context label source.spec indentSize lines lineNumber
      let width := item.insertion.text.length
      followUp.asksAgain = true →
      (context.kind = .key →
        EditingContext.ofKeyValue? context.area followUp.key =
          some (EditingContext.resolve (item.acceptTyped text lineNumber column) (index + 1)
            (Line.indent line + width + 1) indentSize)) ∧
      (context.kind = .itemKey → Scope.ofHeader? line = none →
        ∃ h scope, Scope.GovernsLine lines index h scope ∧
          ((∀ i other, h < i → i < index → Scope.HeaderAt lines other i →
              scope.indent + 2 * indentSize ≤ other.indent) →
            EditingContext.ofKeyValue? context.area followUp.key =
              some (EditingContext.resolve (item.accept text lineNumber) (index + 1) (width + 1)
                indentSize))) := by
  intro context lines index line label member followUp item width again
  have found (asked : context.kind = .key ∨ context.kind = .itemKey) :=
    EditingContext.exists_value_of_asksAgain grammar
      (EditingContext.area_resolve_ne_root asked.symm) asked member again
  have present : index < lines.length := Lines.caretIndex_lt lineNumber (Lines.ofText_ne_nil text)
  constructor
  · intro asked
    obtain ⟨isWord, named, value, asks⟩ := found (.inl asked)
    have inside : context.area ≠ .root := EditingContext.area_resolve_ne_root (.inr asked)
    obtain ⟨h, scope, governs, sameArea⟩ := EditingContext.exists_governsLine inside
    have below : h < index := by
      apply governs.lt_of_indent_lt
      have deeper := EditingContext.indent_of_key asked governs
      omega
    have plain := FollowUp.plain_of_mem_askingKeys (EditingContext.mem_askingKeys_of_ofKeyValue? asks)
    have inserted : item.insertion.text = followUp.key ++ ": " :=
      text_ofSuggestion_key asked isWord named plain.1 ..
    have there := resolve_replaceWithin governs below present (sameArea ▸ asks) isWord
      (max (Line.indent line) (Lines.clampColumn column line - 1).toNat) indentSize
    simp only [width, acceptTyped, inserted]
    rw [asks]
    exact congrArg some there.symm
  · intro asked plain
    obtain ⟨isWord, named, value, asks⟩ := found (.inr asked)
    have inside : context.area ≠ .root := EditingContext.area_resolve_ne_root (.inl asked)
    have bound : lineNumber ≤ lines.length := (EditingContext.resolve_eq_ofLine inside).1
    obtain ⟨h, scope, governs, sameArea⟩ := EditingContext.exists_governsLine inside
    have below := (governs.above (Lines.getElem?_eq_get present) plain).1
    refine ⟨h, scope, governs, ?_⟩
    intro kept
    rw [asked] at named
    obtain ⟨held, stays, cut⟩ := accept_governed positive asked bound governs below kept isWord named
      (EditingContext.mem_askingKeys_of_ofKeyValue? asks)
    have alone : (Lines.ofText (item.accept text lineNumber))[index]? =
        some (item.insertion.text ++ []) := by rwa [List.append_nil]
    rw [asks]
    have there := EditingContext.resolve_behind_key alone stays (sameArea ▸ asks) cut indentSize
    exact congrArg some there.symm

/-- The key of a link's target, typed in part, and the key that opens a new link both end where an
endpoint is typed. -/
theorem asks_again_at_endpoints :
    let source : SuggestionSource := { objectKeys := ["from".toList] }
    let text := "links:\n  - from: a\n    t".toList
    let context := EditingContext.resolve text 3 6 2
    let item := ofSuggestion context "to" source.spec 2 (Lines.ofText text) 3
    let lone := "links:\n  - ".toList
    let around := EditingContext.resolve lone 2 5 2
    let opening := ofSuggestion around "- from" source.spec 2 (Lines.ofText lone) 2
    (context.kind = .key ∧ EditingContext.resolve (item.acceptTyped text 3 6) 3 9 2 =
        ⟨.endpointValue, .links, [], some .target⟩) ∧
      (around.kind = .itemKey ∧ EditingContext.resolve (opening.accept lone 2) 2 11 2 =
        ⟨.endpointValue, .links, [], some .source⟩) := by
  intro source text context item lone around opening
  have grammar : source.spec = .default := rfl
  constructor
  · have typed : context.kind = .key := by decide
    have value : EditingContext.ofKeyValue? context.area (FollowUp.ofSuggestion context "to").key =
        some ⟨.endpointValue, .links, [], some .target⟩ := by decide
    have caret : Lines.caretIndex (Lines.ofText text) 3 = 2 := by decide
    have depth : Line.indent (Lines.get (Lines.ofText text) (2 : Nat)) = 4 := by decide
    have width : item.insertion.text.length = 4 := by decide
    have written := (asks_again_at_value (by decide) grammar "to" (by decide)
      (by decide)).1 typed
    rw [value, caret, depth, width] at written
    exact ⟨typed, (Option.some.inj written).symm⟩
  · have alone : around.kind = .itemKey := by decide
    have value : EditingContext.ofKeyValue? around.area (FollowUp.ofSuggestion around "- from").key =
        some ⟨.endpointValue, .links, [], some .source⟩ := by decide
    have caret : Lines.caretIndex (Lines.ofText lone) 2 = 1 := by decide
    have width : opening.insertion.text.length = 10 := by decide
    obtain ⟨h, scope, _, accepted⟩ := (asks_again_at_value (by decide) grammar "- from"
      (by decide) (by decide)).2 alone (by decide)
    rw [value, caret, width] at accepted
    have behind := accepted fun i other later bound => by omega
    exact ⟨alone, (Option.some.inj behind).symm⟩

end CompletionItem
end GraphCompletion
