import GraphCompletion.Proofs.InsertedLine

/-!
# Keys and their labels

A key is offered under a label, and the label is all that an insertion and its follow-up are made
from. Here every label that is offered names one key, the inserted text names the same key on its
first line and, where it opens a collection, the key that opens the collection's items on its second.
-/
namespace GraphCompletion

namespace Text

theorem withoutLast_append_self (last : Char) (t : Text) : withoutLast last (t ++ [last]) = t := by
  simp [withoutLast]

/-- A key does not end in a colon. -/
theorem withoutLast_word {word : Text} (isWord : isWord word = true) : withoutLast ':' word = word := by
  unfold withoutLast
  rw [if_neg]
  intro last
  exact not_mem_word isWord (by decide) (List.mem_of_getLast? last)

end Text

variable {key label : Text} {spec : Spec}

/-- Taking apart the label of a padding line gives back the key and its colon. -/
theorem Label.ofText_padding (isWord : Text.isWord key = true) :
    ofText ("- ".toList ++ key ++ [':']) =
      ⟨"- ".toList ++ key ++ [':'], "- ".toList ++ key ++ [':'], true, key ++ [':']⟩ := by
  have nothing : Text.isBlank [] = true := rfl
  have trimmed : Text.strip ("- ".toList ++ key ++ [':']) = "- ".toList ++ key ++ [':'] :=
    Text.strip_dashed nothing nothing
  have own : Text.strip (key ++ [':']) = key ++ [':'] := Text.strip_named nothing nothing isWord
  unfold ofText
  rw [trimmed]
  simp [Text.isBlankChar, own]

namespace Spec

/-- Every name in the grammar is an identifier, and every section's items have a key that opens them. -/
structure HasWordNames (spec : Spec) : Prop extends spec.HasWordKeys where
  roots : ∀ name ∈ spec.rootSectionsOrDefault, Text.isWord name = true
  opens : ∀ area item, spec.itemSpec? area = some item → item.startKey.isSome = true

namespace HasWordNames

theorem startKey_itemSpecOf (words : spec.HasWordNames) (collection : Text) :
    (spec.itemSpecOf collection).startKey = some (Insertion.startKeyText spec collection) := by
  have opens : (spec.itemSpecOf collection).startKey.isSome = true := by
    unfold itemSpecOf
    split
    · exact words.opens .nodes _ rfl
    · exact words.opens .links _ rfl
  obtain ⟨start, given⟩ := Option.isSome_iff_exists.1 opens
  rw [Insertion.startKeyText, startKeyOf, given, Option.getD_some]

end HasWordNames

/-- The names of the default grammar are identifiers. -/
theorem hasWordNames_default : Spec.default.HasWordNames where
  toHasWordKeys := hasWordKeys_default
  roots := by decide
  opens := by
    intro area item given
    cases area <;> cases given <;> rfl

end Spec

namespace Suggestion

/-- What a label stands for: the key itself, or the key as it is written where an item opens, where
one continues, or on a padding line. -/
def Names : ContextKind → Text → Text → Prop
  | .rootKey, label, key => label = key
  | .rootItemKey, label, key => label = "- ".toList ++ key ++ [':']
  | .itemKey, label, key => label = "- ".toList ++ key ∨ label = "  ".toList ++ key
  | .key, label, key => label = key
  | _, _, _ => False

theorem Names.unique {kind : ContextKind} {other : Text} (named : Names kind label key)
    (again : Names kind label other) : other = key := by
  cases kind with
  | rootKey => exact again.symm.trans named
  | rootItemKey =>
    have same := named.symm.trans again
    simpa using same.symm
  | itemKey =>
    rcases named with opening | following
    · rcases again with same | same
      · simpa [opening] using same.symm
      · simp [opening] at same
    · rcases again with same | same
      · simp [following] at same
      · simpa [following] using same.symm
  | key => exact again.symm.trans named
  | nodeTypeValue | linkTypeValue | endpointValue | none => exact named.elim

variable {context : EditingContext} {source : SuggestionSource}

/-- Where keys are asked for, every label that is offered names a key of the grammar. -/
theorem exists_names_of_mem_offered (words : source.spec.HasWordNames)
    (asked : context.kind = .rootKey ∨ context.kind = .rootItemKey ∨ context.kind = .itemKey ∨
      context.kind = .key) (member : label ∈ offered context source) :
    ∃ key, Text.isWord key = true ∧ Names context.kind label key := by
  rcases asked with root | padding | item | inner
  · rw [root]
    simp only [offered, root] at member
    have known := (List.mem_filter.1 member).1
    exact ⟨label, words.roots label known, rfl⟩
  · rw [padding]
    simp only [offered, padding] at member
    obtain ⟨name, listed, same⟩ := List.mem_map.1 member
    have known := (List.mem_filter.1 listed).1
    exact ⟨name, words.roots name known, same.symm⟩
  · rw [item]
    exact words.exists_key_of_mem_offered item member
  · rw [inner]
    simp only [offered, inner] at member
    split at member
    · exact ⟨label, words.isWord_of_mem_keysOf (mem_keysOf_of_mem_nextKey member), rfl⟩
    · simp at member

end Suggestion

namespace Insertion

/-- The text's first line names the key, and a further line the key that opens the items under it. -/
def Writes (spec : Spec) (text key : Text) : Prop :=
  ∃ first rest, Lines.ofText text = first :: rest ∧ Line.key? first = some key ∧
    ∀ second ∈ rest, Line.key? second = (spec.itemSpecOf key).startKey

theorem writes_itemLine (isWord : Text.isWord key = true) (spec : Spec) (indent : Int) :
    Writes spec (itemLine indent key) key :=
  ⟨_, [], ofText_itemLine isWord indent, key?_itemLine isWord indent, by simp⟩

theorem writes_keyLine (isWord : Text.isWord key = true) (spec : Spec) (indent : Int) :
    Writes spec (keyLine indent key) key :=
  ⟨_, [], ofText_keyLine isWord indent, key?_keyLine isWord indent, by simp⟩

theorem writes_collectionText (words : spec.HasWordNames) (isWord : Text.isWord key = true)
    (indentSize keyIndent : Int) : Writes spec (collectionText key spec indentSize keyIndent) key := by
  refine ⟨_, _, ofText_collectionText words.toHasWordKeys isWord indentSize keyIndent,
    key?_headerLine isWord keyIndent, ?_⟩
  intro second member
  rw [List.mem_singleton.1 member, words.startKey_itemSpecOf key]
  exact key?_itemLine (words.isWord_startKeyText key) _

/-- A section of the root opens like any collection, at the margin. -/
theorem rootSectionText_eq (name : Text) (spec : Spec) (indentSize : Int) :
    rootSectionText name spec indentSize = collectionText name spec indentSize 0 := by
  have start : startKeyText spec (if name = "nodes".toList then "nodes" else "links") =
      startKeyText spec name := by
    unfold startKeyText Spec.startKeyOf Spec.itemSpecOf
    split
    · rfl
    · rw [if_neg (by decide)]
  unfold rootSectionText collectionText
  simp only [start, Int.zero_add]
  rfl

/-- Wherever an item's key is inserted, the text names it. -/
theorem writes_itemKeyText (words : spec.HasWordNames) (isWord : Text.isWord key = true)
    (named : Suggestion.Names .itemKey label key) (indentSize : Int) (lines : List Text) (index : Int)
    (line : Text) :
    Writes spec (itemKeyText (Label.ofText label) spec indentSize lines index line) key := by
  unfold itemKeyText
  rcases named with rfl | rfl
  · rw [Label.ofText_opening isWord]
    exact writes_itemLine isWord spec _
  · rw [Label.ofText_following isWord]
    simp only [Bool.false_eq_true, if_false]
    split
    · exact writes_collectionText words isWord indentSize _
    · exact writes_keyLine isWord spec _

/-- The text inserted for a label names the label's key, whatever document it is made for. -/
theorem writes_build {context : EditingContext} (words : spec.HasWordNames)
    (isWord : Text.isWord key = true) (named : Suggestion.Names context.kind label key)
    (indentSize : Int) (lines : List Text) (lineNumber : Int) (currentLine : Text) :
    Writes spec (build context label spec indentSize lines lineNumber currentLine).text key := by
  unfold build
  cases kind : context.kind with
  | rootKey =>
    rw [kind] at named
    obtain rfl : label = key := named
    simp only [Label.ofText_word isWord, rootSectionText_eq]
    exact writes_collectionText words isWord indentSize 0
  | rootItemKey =>
    rw [kind] at named
    obtain rfl : label = "- ".toList ++ key ++ [':'] := named
    simp only [Label.bareKey, Label.ofText_padding isWord, Text.withoutLast_append_self,
      rootSectionText_eq]
    exact writes_collectionText words isWord indentSize 0
  | itemKey =>
    rw [kind] at named
    exact writes_itemKeyText words isWord named indentSize _ _ _
  | key =>
    rw [kind] at named
    obtain rfl : label = key := named
    simp only [Label.ofText_word isWord]
    split
    · exact writes_collectionText words isWord indentSize 0
    · exact writes_keyLine isWord spec 0
  | nodeTypeValue | linkTypeValue | endpointValue | none =>
    rw [kind] at named
    exact named.elim

end Insertion

/-- The follow-up of a label is that of its key. -/
theorem FollowUp.key_ofSuggestion {context : EditingContext} (isWord : Text.isWord key = true)
    (named : Suggestion.Names context.kind label key) : (ofSuggestion context label).key = key := by
  unfold ofSuggestion
  cases kind : context.kind with
  | rootKey =>
    rw [kind] at named
    obtain rfl : label = key := named
    simp only [Label.ofText_word isWord]
  | rootItemKey =>
    rw [kind] at named
    obtain rfl : label = "- ".toList ++ key ++ [':'] := named
    simp only [Label.bareKey, Label.ofText_padding isWord, Text.withoutLast_append_self]
  | itemKey =>
    rw [kind] at named
    have bare : (Label.ofText label).bareKey = key := by
      rcases named with rfl | rfl
      · rw [Label.ofText_opening isWord, Label.bareKey, Text.withoutLast_word isWord]
      · rw [Label.ofText_following isWord, Label.bareKey, Text.withoutLast_word isWord]
    simp only [bare]
    split <;> rfl
  | key =>
    rw [kind] at named
    obtain rfl : label = key := named
    simp only [Label.ofText_word isWord]
    split <;> rfl
  | nodeTypeValue | linkTypeValue | endpointValue | none =>
    rw [kind] at named
    exact named.elim

namespace Suggestion

/-- Every label offered where keys are asked for stands for exactly one key. That key is the one its
insertion names first and the one its follow-up is decided by, and a second line of the insertion names
the key that opens the items under it, wherever the insertion is made. -/
theorem offered_label_names_key {source : SuggestionSource} {context : EditingContext}
    (words : source.spec.HasWordNames)
    (asked : context.kind = .rootKey ∨ context.kind = .rootItemKey ∨ context.kind = .itemKey ∨
      context.kind = .key) (member : label ∈ offered context source) (indentSize : Int)
    (lines : List Text) (lineNumber : Int) (currentLine : Text) :
    ∃ key, (∀ other, Names context.kind label other ↔ other = key) ∧
      Insertion.Writes source.spec (Insertion.build context label source.spec indentSize lines
        lineNumber currentLine).text key ∧
      (FollowUp.ofSuggestion context label).key = key := by
  obtain ⟨key, isWord, named⟩ := exists_names_of_mem_offered words asked member
  refine ⟨key, fun other => ⟨named.unique, ?_⟩, ?_, FollowUp.key_ofSuggestion isWord named⟩
  · rintro rfl
    exact named
  · exact Insertion.writes_build words isWord named indentSize lines lineNumber currentLine

/-- In a grammar of its own, nodes are continued with under two blanks, and open with a title. -/
theorem nodes_label_names_nodes :
    let item : ItemSpec := .ofTexts ["nodes", "x-y"] ["title"] "title"
    let source : SuggestionSource :=
      { spec := ⟨some ["graph"], some item, some item⟩, canContinueItem := true }
    let context : EditingContext := ⟨.itemKey, .links, [], none⟩
    let insertion := Insertion.build context "  nodes" source.spec 3 ["links:", "   -"] 2 "   -"
    source.spec.HasWordNames ∧ "  nodes".toList ∈ offered context source ∧
      Insertion.Writes source.spec insertion.text "nodes" := by
  intro item source context insertion
  have words : source.spec.HasWordNames := by
    refine ⟨⟨?_, ?_⟩, by decide, ?_⟩
    · intro area given held
      cases area <;> cases held <;> decide
    · intro area given key held start
      cases area <;> cases held <;> cases start <;> decide
    · intro area given held
      cases area <;> cases held <;> rfl
  have member : "  nodes".toList ∈ offered context source := by decide
  obtain ⟨key, names, writes, _⟩ := offered_label_names_key words (.inr (.inr (.inl rfl))) member 3
    ["links:", "   -"] 2 "   -"
  obtain rfl : "nodes".toList = key := (names "nodes").1 (.inr rfl)
  exact ⟨words, member, writes⟩

end Suggestion
end GraphCompletion
