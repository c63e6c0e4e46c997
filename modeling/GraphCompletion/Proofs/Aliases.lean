import GraphCompletion.Proofs.EnclosingKeys
import GraphCompletion.Proofs.OfferedKeys
import GraphCompletion.Proofs.SharedParses

/-!
# The two names of links

A collection of links is headed by `links:` or by `edges:`. The sections at the root are known by one
name, but the names that a grammar offers are compared with those in use as they are written. So a
collection that is there under one of its names can be offered again under the other, and in no other
way.
-/
namespace GraphCompletion

variable {key label : Text}

namespace Section

/-- The one name of links, and the other. -/
def OtherName (name other : Text) : Prop :=
  (name = "links".toList ∧ other = "edges".toList) ∨ (name = "edges".toList ∧ other = "links".toList)

/-- Names of one section are the same or are the two names of links. -/
theorem canonicalName_eq_iff {name other : Text} :
    canonicalName name = canonicalName other ↔ name = other ∨ OtherName name other := by
  unfold canonicalName OtherName
  by_cases edges : name = "edges".toList
  · subst edges
    by_cases again : other = "edges".toList
    · simp only [again, true_or]
    · rw [if_pos rfl, if_neg again]
      simp only [Ne.symm again, again, and_false, true_and, false_or]
      exact eq_comm
  · by_cases again : other = "edges".toList
    · subst again
      rw [if_neg edges, if_pos rfl]
      simp only [edges, and_true, false_and, false_or, or_false]
    · rw [if_neg edges, if_neg again]
      simp only [edges, again, and_false, false_and, or_false]

theorem isWord_of_otherName {name other : Text} (alike : OtherName name other) :
    Text.isWord name = true := by
  rcases alike with ⟨rfl, _⟩ | ⟨rfl, _⟩ <;> decide

/-- The names that the root's sections are known by are the canonical ones. -/
theorem canonicalName_of_root {name : Text} (known : name ∈ Metadata.rootCollections) :
    canonicalName name = name := by
  simp only [Metadata.rootCollections, List.mem_cons, List.not_mem_nil, or_false] at known
  rcases known with rfl | rfl <;> decide

end Section

namespace Suggestion

/-- The label adds the key to what is around the caret; a dash opens an item of its own. -/
def Adds : ContextKind → Text → Text → Prop
  | .itemKey, label, key => label = "  ".toList ++ key
  | kind, label, key => Names kind label key

end Suggestion

namespace Completion

open Suggestion (Adds matchesTyped normalizeTyped)
open Section (canonicalName OtherName)

section

variable (c : Completion) (metadata : Metadata)

/-- The names that what is offered is compared with. -/
def inUse : List Text :=
  match c.context.kind with
  | .rootKey | .rootItemKey => metadata.presentSections
  | .key => c.objectKeys
  | .itemKey => c.item.keys
  | _ => []

/-- What the key stands for is there already, under whichever name. -/
def IsTaken (key : Text) : Prop :=
  match c.context.kind with
  | .rootKey | .rootItemKey => canonicalName key ∈ metadata.presentSections
  | _ => canonicalName key ∈ (c.inUse metadata).map canonicalName

/-- Some grammar lets the key be added at the caret. -/
def CanAdd (key : Text) : Prop :=
  match c.context.kind with
  | .rootItemKey => True
  | .rootKey | .key => matchesTyped (normalizeTyped c.context.typed) key = true
  | .itemKey => c.item.canContinue = true ∧
      ¬(c.context.area = .nodes ∧ Item.terminalKey ∈ c.item.keys) ∧
      matchesTyped (normalizeTyped c.context.typed) key = true
  | _ => False

end

variable {c : Completion} {metadata : Metadata}

/-- A key is taken if it is in use itself or under its other name. -/
theorem isTaken_iff (known : ∀ name ∈ metadata.presentSections, name ∈ Metadata.rootCollections) :
    c.IsTaken metadata key ↔
      key ∈ c.inUse metadata ∨ ∃ other ∈ c.inUse metadata, OtherName key other := by
  have mapped : canonicalName key ∈ (c.inUse metadata).map canonicalName ↔
      key ∈ c.inUse metadata ∨ ∃ other ∈ c.inUse metadata, OtherName key other := by
    rw [List.mem_map]
    constructor
    · intro held
      obtain ⟨other, member, same⟩ := held
      cases Section.canonicalName_eq_iff.1 same.symm with
      | inl self => exact .inl (self ▸ member)
      | inr alike => exact .inr ⟨other, member, alike⟩
    · intro held
      rcases held with member | ⟨other, member, alike⟩
      · exact ⟨key, member, rfl⟩
      · exact ⟨other, member, (Section.canonicalName_eq_iff.2 (.inr alike)).symm⟩
  -- The sections at the root are canonical already.
  have canonical : metadata.presentSections.map canonicalName = metadata.presentSections := by
    rw [List.map_congr_left fun name member => Section.canonicalName_of_root (known name member),
      List.map_id']
  rw [← mapped]
  unfold IsTaken inUse
  cases c.context.kind with
  | rootKey => simp only [canonical]
  | rootItemKey => simp only [canonical]
  | key | itemKey | nodeTypeValue | linkTypeValue | endpointValue | none => rfl

/-- What is suggested is not in use under the name by which it is suggested. -/
theorem unused_of_suggested {vocabulary : Vocabulary} (member : label ∈ c.suggestions metadata vocabulary)
    (adds : Adds c.context.kind label key) : key ∉ c.inUse metadata ∧ c.CanAdd key := by
  unfold suggestions Suggestion.offered at member
  unfold inUse CanAdd
  cases kind : c.context.kind with
  | rootKey =>
    rw [kind] at adds
    obtain rfl : label = key := adds
    simp only [kind, Suggestion.rootKeys, List.mem_filter, Bool.and_eq_true, Bool.not_eq_true',
      List.contains_eq_mem, decide_eq_false_iff_not] at member
    exact member.2
  | rootItemKey =>
    rw [kind] at adds
    simp only [kind, Suggestion.rootItemKeys, List.mem_map, List.mem_filter, Bool.and_eq_true,
      Bool.not_eq_true', List.contains_eq_mem, decide_eq_false_iff_not] at member
    obtain ⟨name, ⟨_, _, absent⟩, same⟩ := member
    have named : Suggestion.Names .rootItemKey label name := same.symm
    obtain rfl : key = name := named.unique adds
    exact ⟨absent, trivial⟩
  | key =>
    rw [kind] at adds
    obtain rfl : label = key := adds
    simp only [kind] at member
    split at member
    · have found := List.mem_of_mem_take member
      simp only [List.mem_filter, Bool.not_eq_true', List.contains_eq_mem,
        decide_eq_false_iff_not] at found
      exact ⟨found.1.2, found.2⟩
    · cases member
  | itemKey =>
    rw [kind] at adds
    obtain rfl : label = "  ".toList ++ key := adds
    simp only [kind] at member
    rcases Suggestion.mem_itemKeys_iff.1 member with ⟨opening, _⟩ | ⟨other, same, continues, next, starts⟩
    · simp at opening
    · obtain rfl : key = other := by simpa using same
      obtain ⟨goesOn, _, _, absent⟩ := Suggestion.mem_continuationKeys_iff.1 next
      exact ⟨absent, continues, goesOn, starts⟩
  | nodeTypeValue | linkTypeValue | endpointValue | none =>
    rw [kind] at adds
    exact adds.elim

/-- A name of links that is not in use is suggested, in a grammar made for it. -/
theorem exists_suggested {other : Text} (alike : OtherName key other)
    (collection : c.context.kind = .itemKey ∨ c.context.kind = .key → c.context.area.isCollection = true)
    (unused : key ∉ c.inUse metadata) (allowed : c.CanAdd key) :
    ∃ vocabulary, ∃ label ∈ c.suggestions metadata vocabulary, Adds c.context.kind label key := by
  have isWord : Text.isWord key = true := Section.isWord_of_otherName alike
  have offerable : key ≠ ItemSpec.forbiddenKey ∧ key ≠ "name".toList := by
    rcases alike with ⟨rfl, _⟩ | ⟨rfl, _⟩ <;> decide
  let root : Vocabulary := { spec := ⟨some [key], none, none⟩ }
  let item : ItemSpec := .ofTexts [] [key] "name"
  let inner : Vocabulary := { spec := ⟨none, some item, some item⟩ }
  unfold inUse at unused
  unfold CanAdd at allowed
  cases kind : c.context.kind with
  | rootKey =>
    simp only [kind] at unused allowed
    refine ⟨root, key, ?_, rfl⟩
    simp only [suggestions, Suggestion.offered, kind]
    refine List.mem_filter.2 ⟨List.mem_singleton.2 rfl, ?_⟩
    simp [source, unused, allowed]
  | rootItemKey =>
    simp only [kind] at unused
    refine ⟨root, "- ".toList ++ key ++ [':'], ?_, rfl⟩
    have filled : key ≠ [] := by
      rintro rfl
      cases isWord
    simp only [suggestions, Suggestion.offered, kind]
    refine List.mem_map.2 ⟨key, List.mem_filter.2 ⟨List.mem_singleton.2 rfl, ?_⟩, rfl⟩
    simp [source, unused, filled]
  | key =>
    simp only [kind] at unused allowed
    have inside := collection (.inr kind)
    let only : ItemSpec := .ofTexts [] [key] key
    refine ⟨{ spec := ⟨none, some only, some only⟩ }, key, ?_, rfl⟩
    rw [suggestions_eq_nextKey kind inside, Spec.itemSpec?_of_alike inside,
      Suggestion.nextKey_of_single isWord ⟨allowed, offerable.1⟩ unused]
    exact List.mem_singleton.2 rfl
  | itemKey =>
    simp only [kind] at unused allowed
    have inside := collection (.inl kind)
    have spec : (c.source metadata inner).spec.itemSpec? c.context.area = some item :=
      Spec.itemSpec?_of_alike inside item
    refine ⟨inner, "  ".toList ++ key, ?_, rfl⟩
    simp only [suggestions, Suggestion.offered, kind]
    refine Suggestion.mem_itemKeys_iff.2 (.inr ⟨key, rfl, allowed.1, ?_, allowed.2.2⟩)
    rw [spec, Suggestion.mem_continuationKeys_iff, Suggestion.keysOf_single isWord offerable.1]
    exact ⟨allowed.2.1, List.mem_singleton.2 rfl, offerable.2, unused⟩
  | nodeTypeValue | linkTypeValue | endpointValue | none =>
    simp only [kind] at allowed

/-- A section that is there already is suggested again under its other name only. Some grammar makes that
happen exactly if one name of links is in use without the other, and the other one could be added. -/
theorem taken_section_suggested_iff (text : Text) (lineNumber column indentSize : Int)
    (entities : Entities) (document : Yaml.Document) :
    let metadata := Metadata.ofDocument text entities document
    let completion := atCaret text lineNumber column metadata indentSize
    (∀ vocabulary, ∀ label ∈ completion.suggestions metadata vocabulary, ∀ key,
      Adds completion.context.kind label key → completion.IsTaken metadata key →
        key ∉ completion.inUse metadata ∧ ∃ other ∈ completion.inUse metadata, OtherName key other) ∧
    ((∀ vocabulary, ∀ label ∈ completion.suggestions metadata vocabulary, ∀ key,
        Adds completion.context.kind label key → ¬ completion.IsTaken metadata key) ↔
      ∀ key, ∀ other ∈ completion.inUse metadata, OtherName key other → completion.CanAdd key →
        key ∈ completion.inUse metadata) := by
  intro metadata completion
  have known : ∀ name ∈ metadata.presentSections, name ∈ Metadata.rootCollections :=
    fun name member => Metadata.mem_rootSections member
  have collection (asked : completion.context.kind = .itemKey ∨ completion.context.kind = .key) :
      completion.context.area.isCollection = true :=
    Section.isCollection_of_ne_root (EditingContext.area_resolve_ne_root asked)
  have aliased : ∀ vocabulary, ∀ label ∈ completion.suggestions metadata vocabulary, ∀ key,
      Adds completion.context.kind label key → completion.IsTaken metadata key →
        key ∉ completion.inUse metadata ∧ ∃ other ∈ completion.inUse metadata, OtherName key other := by
    intro vocabulary label member key adds taken
    have unused := (unused_of_suggested member adds).1
    cases (isTaken_iff known).1 taken with
    | inl used => exact absurd used unused
    | inr alike => exact ⟨unused, alike⟩
  refine ⟨aliased, ?_⟩
  constructor
  · intro never key other held alike allowed
    by_contra unused
    obtain ⟨vocabulary, label, member, adds⟩ := exists_suggested alike collection unused allowed
    exact never vocabulary label member key adds ((isTaken_iff known).2 (.inr ⟨other, held, alike⟩))
  · intro both vocabulary label member key adds taken
    obtain ⟨unused, other, held, alike⟩ := aliased vocabulary label member key adds taken
    exact unused (both key other held alike (unused_of_suggested member adds).2)

/-- A node that has its links under their other name is offered links again. -/
theorem links_suggested_beside_edges :
    let text := "nodes:\n  - name: a\n    edges:\n  ".toList
    let metadata := Metadata.ofDocument text {} .null
    let completion := atCaret text 4 3 metadata 2
    completion.context.kind = .itemKey ∧
      "  links".toList ∈ completion.suggestions metadata {} ∧
      Adds completion.context.kind "  links" "links" ∧ completion.IsTaken metadata "links" := by
  intro text metadata completion
  have asked : completion.context.kind = .itemKey := by decide
  have keys : completion.item.keys = ["name", "edges"] := by decide
  refine ⟨asked, by decide, ?_, ?_⟩
  · rw [asked]
    rfl
  · unfold IsTaken inUse
    simp only [asked, keys]
    decide

end Completion
end GraphCompletion
