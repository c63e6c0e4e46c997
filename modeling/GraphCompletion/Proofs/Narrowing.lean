import GraphCompletion.Proofs.OfferedKeys
import GraphCompletion.Proofs.Transparency
import GraphCompletion.Proofs.TypedValue
import Mathlib.Data.List.Nodup

/-!
# What is typed narrows the offer

Nothing is suggested twice, and what is suggested begins in lower case with what is typed. Where the
whole offer is shown, what is typed takes from it and adds nothing, but for the colon that a node's
name in full gives way to. That nothing comes twice has its own reason for each kind: the root's
sections are given so, the keys of a section and the types are collected each once, and the node names
are sorted.
-/
namespace GraphCompletion

theorem Catalog.nodup_normalizeTexts (texts : List Text) : (normalizeTexts texts).Nodup :=
  nodup_eraseDups _

/-- The root has no section twice if the grammar gives none twice. -/
theorem Spec.nodup_rootSectionsOrDefault {spec : Spec}
    (single : ∀ names, spec.rootSections = some names → names.Nodup) :
    spec.rootSectionsOrDefault.Nodup := by
  unfold rootSectionsOrDefault
  split
  next name others given => exact single _ given
  next => decide

/-- The names of a document's nodes come in order, and none twice. -/
theorem Metadata.nodup_nodeNames {text : Text} {metadata : Metadata}
    (built : rebuilt text = .ok metadata) : metadata.entities.nodeNames.Nodup := by
  obtain ⟨document, rfl⟩ := eq_ofDocument_of_rebuilt built
  have sorted : (Entities.ofDocument document).nodeNames.Pairwise (· < ·) :=
    Text.pairwise_sortedSet _
  refine sorted.imp ?_
  rintro name _ less rfl
  exact List.lt_irrefl name less

namespace Suggestion

variable {source : SuggestionSource} {context : EditingContext} {spec : Option ItemSpec}
  {area : Section} {typed offer : Text}

/-- What is offered begins in lower case with what is typed: the key that it names, where keys are asked
for, and it itself, where values are. On padding lines nothing is typed. -/
def BeginsAsTyped : ContextKind → Text → Text → Prop
  | .rootItemKey, _, offer => ∃ key, Names .rootItemKey offer key
  | .nodeTypeValue, typed, offer | .linkTypeValue, typed, offer | .endpointValue, typed, offer =>
    Text.lower typed <+: Text.lower offer
  | kind, typed, offer => ∃ key, Names kind offer key ∧ normalizeTyped typed <+: Text.lower key

theorem prefix_of_matchesTyped {t : Text} (begins : matchesTyped typed t = true) :
    typed <+: Text.lower t :=
  List.isPrefixOf_iff_prefix.1 begins

theorem nodup_rootKeys (distinct : source.spec.rootSectionsOrDefault.Nodup) :
    (rootKeys source typed).Nodup :=
  distinct.sublist List.filter_sublist

theorem nodup_rootItemKeys (distinct : source.spec.rootSectionsOrDefault.Nodup) :
    (rootItemKeys source).Nodup := by
  unfold rootItemKeys
  apply List.Nodup.map
  · intro name other same
    simpa using same
  · exact distinct.sublist List.filter_sublist

theorem begins_of_mem_rootKeys (member : offer ∈ rootKeys source typed) :
    BeginsAsTyped .rootKey typed offer := by
  have passed := (List.mem_filter.1 member).2
  simp only [Bool.and_eq_true] at passed
  exact ⟨offer, rfl, prefix_of_matchesTyped passed.2⟩

theorem begins_of_mem_rootItemKeys (member : offer ∈ rootItemKeys source) :
    BeginsAsTyped .rootItemKey typed offer := by
  obtain ⟨name, _, same⟩ := List.mem_map.1 member
  exact ⟨name, same.symm⟩

theorem rootKeys_sublist : (rootKeys source typed).Sublist (rootKeys source []) := by
  apply List.monotone_filter_right
  intro name passed
  simp only [Bool.and_eq_true] at passed ⊢
  exact ⟨passed.1, matchesTyped_nil name⟩

theorem nodup_nextKey {used : List Text} : (nextKey spec used typed).Nodup :=
  nodup_keysOf.sublist
    ((List.take_sublist _ _).trans (List.filter_sublist.trans List.filter_sublist))

theorem begins_of_mem_nextKey {used : List Text} (member : offer ∈ nextKey spec used typed) :
    BeginsAsTyped .key typed offer := by
  have passed := (List.mem_filter.1 (List.mem_of_mem_take member)).2
  exact ⟨offer, rfl, prefix_of_matchesTyped passed⟩

theorem continuationKeys_sublist {used : List Text} :
    (continuationKeys spec area used).Sublist (keysOf spec) := by
  unfold continuationKeys
  split
  · exact List.nil_sublist _
  · exact List.filter_sublist

/-- An opening label and a following one differ in their first character. -/
theorem nodup_itemKeys : (itemKeys source area typed).Nodup := by
  unfold itemKeys
  apply List.nodup_append.2
  refine ⟨?_, ?_, ?_⟩
  · split
    · exact List.nodup_singleton _
    · exact List.nodup_nil
  · apply List.Nodup.map
    · intro key other same
      simpa using same
    · split
      · exact (nodup_keysOf.sublist continuationKeys_sublist).sublist List.filter_sublist
      · exact List.nodup_nil
  · intro opening starts following goesOn same
    obtain ⟨key, _, dressed⟩ := List.mem_map.1 goesOn
    split at starts
    · rw [List.mem_singleton.1 starts, ← dressed] at same
      simp at same
    · cases starts

theorem begins_of_mem_itemKeys (member : offer ∈ itemKeys source area typed) :
    BeginsAsTyped .itemKey typed offer := by
  rcases mem_itemKeys_iff.1 member with ⟨same, begins⟩ | ⟨key, same, _, _, begins⟩
  · exact ⟨_, .inl same, prefix_of_matchesTyped begins⟩
  · exact ⟨key, .inr same, prefix_of_matchesTyped begins⟩

theorem itemKeys_sublist : (itemKeys source area typed).Sublist (itemKeys source area []) := by
  unfold itemKeys
  simp only [normalizeTyped_nil, matchesTyped_nil, if_true]
  apply List.Sublist.append
  · split
    · exact List.Sublist.refl _
    · exact List.nil_sublist _
  · apply List.Sublist.map
    split
    · apply List.monotone_filter_right
      intro key _
      exact matchesTyped_nil key
    · exact List.Sublist.refl _

/-- Where no value is asked for, the offer is distinct if the sections of the root are. -/
theorem nodup_offered_keys (distinct : source.spec.rootSectionsOrDefault.Nodup)
    (noValue : context.kind.isValue = false) : (offered context source).Nodup := by
  unfold offered
  cases kind : context.kind with
  | rootKey => exact nodup_rootKeys distinct
  | rootItemKey => exact nodup_rootItemKeys distinct
  | itemKey => exact nodup_itemKeys
  | key =>
    simp only
    split
    · exact nodup_nextKey
    · exact List.nodup_nil
  | none => exact List.nodup_nil
  | nodeTypeValue | linkTypeValue | endpointValue => simp [kind, ContextKind.isValue] at noValue

/-- Where no value is asked for, every key that is offered begins with what is typed. -/
theorem begins_of_mem_offered_keys (noValue : context.kind.isValue = false)
    (member : offer ∈ offered context source) : BeginsAsTyped context.kind context.typed offer := by
  unfold offered at member
  cases kind : context.kind with
  | rootKey =>
    simp only [kind] at member
    exact begins_of_mem_rootKeys member
  | rootItemKey =>
    simp only [kind] at member
    exact begins_of_mem_rootItemKeys member
  | itemKey =>
    simp only [kind] at member
    exact begins_of_mem_itemKeys member
  | key =>
    simp only [kind] at member
    split at member
    · exact begins_of_mem_nextKey member
    · cases member
  | none =>
    simp only [kind] at member
    cases member
  | nodeTypeValue | linkTypeValue | endpointValue => simp [kind, ContextKind.isValue] at noValue

theorem nodup_types (texts : List Text) (typed : Text) :
    (types (Catalog.normalizeTexts texts) typed).Nodup :=
  (Catalog.nodup_normalizeTexts texts).sublist List.filter_sublist

/-- A type in normal form is in lower case, so it begins as it is with what is typed. -/
theorem begins_of_mem_types {texts : List Text}
    (member : offer ∈ types (Catalog.normalizeTexts texts) typed) :
    Text.lower typed <+: Text.lower offer := by
  obtain ⟨known, begins⟩ := List.mem_filter.1 member
  obtain ⟨raw, rfl⟩ := Catalog.lowered_normalizeTexts texts offer known
  rw [Text.lower_lower]
  exact List.isPrefixOf_iff_prefix.1 begins

theorem types_sublist (values : List Text) (typed : Text) :
    (types values typed).Sublist (types values []) := by
  apply List.monotone_filter_right
  intro value _
  simp

variable {entities : Entities} {endpoint : Option Endpoint}

/-- Behind the colon ports are free. -/
theorem endpoints_of_colon (colon : ':' ∈ typed) : endpoints typed entities endpoint = [] := by
  have small : Text.IsSmall ':' := Text.isSmall_of_ascii (by decide) (by decide)
  have kept : ':' ∈ Text.lower typed := Text.mem_lowerAfter_of_small small colon
  simp [endpoints, kept]

theorem endpoints_of_namesNode (given : endpoint.isSome = true) (full : NamesNode entities typed) :
    endpoints typed entities endpoint = [[':']] := by
  obtain ⟨filled, noColon, name, member, same⟩ := full
  obtain ⟨value, rfl⟩ := Option.isSome_iff_exists.1 given
  exact endpoints_of_same_name member same filled noColon

/-- What the endpoint rule offers is the colon behind a name in full, or a part of the node names that
begins with what is typed. -/
theorem endpoints_cases (typed : Text) (entities : Entities) {endpoint : Option Endpoint}
    (given : endpoint.isSome = true) :
    NamesNode entities typed ∧ endpoints typed entities endpoint = [[':']] ∨
      ¬ NamesNode entities typed ∧
        (endpoints typed entities endpoint).Sublist entities.nodeNames ∧
        ∀ offer ∈ endpoints typed entities endpoint, Text.lower typed <+: Text.lower offer := by
  by_cases full : NamesNode entities typed
  · exact .inl ⟨full, endpoints_of_namesNode given full⟩
  · right
    by_cases colon : ':' ∈ typed
    · rw [endpoints_of_colon colon]
      exact ⟨full, List.nil_sublist _, by simp⟩
    · rw [endpoints_eq_filter colon full]
      refine ⟨full, List.filter_sublist, ?_⟩
      intro offer member
      exact prefix_of_matchesTyped (List.mem_filter.1 member).2

end Suggestion

namespace Completion

open Suggestion (BeginsAsTyped NamesNode)

variable {text : Text} {metadata : Metadata} {v : Vocabulary}

/-- The same caret with nothing typed there yet. -/
def untyped (c : Completion) : Completion := { c with context := { c.context with typed := [] } }

/-- The suggestions at a caret, as compared with those there before anything is typed. -/
structure Narrowed (c : Completion) (metadata : Metadata) (v : Vocabulary) : Prop where
  distinct : (c.suggestions metadata v).Nodup
  begins : ∀ offer ∈ c.suggestions metadata v, BeginsAsTyped c.context.kind c.context.typed offer ∨
    c.context.kind = .endpointValue ∧ NamesNode metadata.entities c.context.typed ∧ offer = [':']
  /-- The keys inside an item are left out, for only the first one that fits is shown. -/
  part : c.context.kind = .rootKey ∨ c.context.kind = .itemKey ∨ c.context.kind = .nodeTypeValue ∨
    c.context.kind = .linkTypeValue →
      (c.suggestions metadata v).Sublist (c.untyped.suggestions metadata v)
  short : c.context.kind = .endpointValue → ¬ NamesNode metadata.entities c.context.typed →
    (c.suggestions metadata v).Sublist (c.untyped.suggestions metadata v)
  full : c.context.kind = .endpointValue → NamesNode metadata.entities c.context.typed →
    c.suggestions metadata v = [[':']]
  port : c.context.kind = .endpointValue → ':' ∈ c.context.typed → c.suggestions metadata v = []

theorem narrowed_of_types {c : Completion} (profile : ∃ value, Catalog.ofDatum value = .ok v.catalog)
    (asked : c.context.kind = .nodeTypeValue ∨ c.context.kind = .linkTypeValue) :
    c.Narrowed metadata v := by
  obtain ⟨texts, offered⟩ := exists_normal_types_offered profile asked metadata
  have notEndpoint : c.context.kind ≠ .endpointValue := by
    intro endpoint
    simp [endpoint] at asked
  have begins {offer : Text} (member : offer ∈ c.suggestions metadata v) :
      BeginsAsTyped c.context.kind c.context.typed offer := by
    rw [offered c rfl] at member
    have start := Suggestion.begins_of_mem_types member
    rcases asked with kind | kind
    · rwa [kind]
    · rwa [kind]
  constructor
  · rw [offered c rfl]
    exact Suggestion.nodup_types texts _
  · exact fun offer member => .inl (begins member)
  · intro _
    rw [offered c rfl, offered c.untyped rfl]
    exact Suggestion.types_sublist _ _
  · exact fun endpoint => absurd endpoint notEndpoint
  · exact fun endpoint => absurd endpoint notEndpoint
  · exact fun endpoint => absurd endpoint notEndpoint

theorem narrowed_of_endpoint {c : Completion} (distinct : metadata.entities.nodeNames.Nodup)
    (known : c.entities = metadata.entities) (asked : c.context.kind = .endpointValue)
    (given : c.context.endpoint.isSome = true) : c.Narrowed metadata v := by
  have all : c.untyped.suggestions metadata v = metadata.entities.nodeNames := by
    rw [suggestions_of_endpoint (show c.untyped.context.kind = .endpointValue from asked)]
    exact Suggestion.endpoints_nil.trans (by rw [← known]; rfl)
  have offered : c.suggestions metadata v =
      Suggestion.endpoints c.context.typed metadata.entities c.context.endpoint := by
    rw [suggestions_of_endpoint asked, known]
  have cases := Suggestion.endpoints_cases c.context.typed metadata.entities given
  rw [← offered] at cases
  constructor
  · rcases cases with ⟨_, colon⟩ | ⟨_, part, _⟩
    · rw [colon]
      exact List.nodup_singleton _
    · exact distinct.sublist part
  · intro offer member
    rcases cases with ⟨full, colon⟩ | ⟨_, _, begins⟩
    · rw [colon] at member
      exact .inr ⟨asked, full, List.mem_singleton.1 member⟩
    · left
      rw [asked]
      exact begins offer member
  · intro other
    simp [asked] at other
  · intro _ short
    rw [all]
    rcases cases with ⟨full, _⟩ | ⟨_, part, _⟩
    · exact absurd full short
    · exact part
  · intro _ full
    rw [offered]
    exact Suggestion.endpoints_of_namesNode given full
  · intro _ colon
    rw [offered]
    exact Suggestion.endpoints_of_colon colon

theorem narrowed_of_keys {c : Completion} (distinct : v.spec.rootSectionsOrDefault.Nodup)
    (noValue : c.context.kind.isValue = false) : c.Narrowed metadata v := by
  have notEndpoint : c.context.kind ≠ .endpointValue := by
    intro endpoint
    simp [endpoint, ContextKind.isValue] at noValue
  constructor
  · exact Suggestion.nodup_offered_keys distinct noValue
  · exact fun offer member => .inl (Suggestion.begins_of_mem_offered_keys noValue member)
  · intro asked
    rcases asked with kind | kind | kind | kind
    · simp only [suggestions, untyped, Suggestion.offered, kind]
      exact Suggestion.rootKeys_sublist
    · simp only [suggestions, untyped, Suggestion.offered, kind]
      exact Suggestion.itemKeys_sublist
    · simp [kind, ContextKind.isValue] at noValue
    · simp [kind, ContextKind.isValue] at noValue
  · exact fun endpoint => absurd endpoint notEndpoint
  · exact fun endpoint => absurd endpoint notEndpoint
  · exact fun endpoint => absurd endpoint notEndpoint

/-- The suggestions at every caret of a text are distinct and begin with what is typed. But for keys
inside an item they are those of the untyped caret in part, and at an endpoint a name in full gives way
to the colon, behind which nothing is suggested. -/
theorem suggestions_narrowed (built : Metadata.rebuilt text = .ok metadata)
    (profile : ∃ value, Catalog.ofDatum value = .ok v.catalog)
    (single : ∀ names, v.spec.rootSections = some names → names.Nodup)
    (lineNumber column indentSize : Int) :
    (atCaret text lineNumber column metadata indentSize).Narrowed metadata v := by
  let c := atCaret text lineNumber column metadata indentSize
  cases kind : c.context.kind with
  | nodeTypeValue => exact narrowed_of_types profile (.inl kind)
  | linkTypeValue => exact narrowed_of_types profile (.inr kind)
  | endpointValue =>
    exact narrowed_of_endpoint (Metadata.nodup_nodeNames built) rfl kind
      (EditingContext.isSome_endpoint_resolve kind)
  | rootKey | rootItemKey | itemKey | key | none =>
    refine narrowed_of_keys (Spec.nodup_rootSectionsOrDefault single) ?_
    show c.context.kind.isValue = false
    rw [kind]
    rfl

/-- Of what an item can open or go on with, that is left which begins with what is typed. -/
theorem suggestions_narrowed_to_n :
    let text := "nodes:\n  - name: a\n  n".toList
    let metadata : Metadata := ⟨Lines.ofText text, {}, ["nodes".toList]⟩
    let completion := atCaret text 3 4 metadata 2
    Metadata.rebuilt text = .ok metadata ∧ completion.Narrowed metadata {} ∧
      completion.suggestions metadata {} = ["- name", "  nodes"] ∧
      completion.untyped.suggestions metadata {} =
        ["- name", "  type", "  ports", "  nodes", "  links"] := by
  intro text metadata completion
  have built : Metadata.rebuilt text = .ok metadata := by decide +kernel
  have profile : ∃ value, Catalog.ofDatum value = .ok ({} : Vocabulary).catalog :=
    ⟨.null, Catalog.ofFields_nil⟩
  have single : ∀ names, Spec.default.rootSections = some names → names.Nodup := by
    rintro names ⟨⟩
    decide
  exact ⟨built, suggestions_narrowed built profile single 3 4 2, by decide, by decide⟩

end Completion
end GraphCompletion
