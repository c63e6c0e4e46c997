import GraphCompletion.Proofs.CatalogNormalForm

/-!
# Where types come from

Three lists can give the types that are offered: the request's own, the catalog's and the fallback. A list
has a type if it holds a text that is not blank, and the first list with a type should count. A catalog
that was read holds no blank text, so it counts exactly if it has a type. The request's own list is tried
before its blanks are left out: one of nothing but blanks counts, and nothing is offered then.
-/
namespace GraphCompletion

namespace Catalog

variable {texts : List Text}

/-- A text that can be a type is among them, one that is not blank. -/
def HasType (texts : List Text) : Prop := ∃ t ∈ texts, Text.isBlank t = false

instance (texts : List Text) : Decidable (HasType texts) :=
  inferInstanceAs (Decidable (∃ t ∈ texts, Text.isBlank t = false))

@[simp] theorem not_hasType_nil : ¬ HasType [] := by simp [HasType]

theorem normalizeTexts_eq_nil_iff : normalizeTexts texts = [] ↔ ¬ HasType texts := by
  rw [List.eq_nil_iff_forall_not_mem]
  simp only [normalizeTexts, List.mem_eraseDups, List.mem_filter, List.mem_map, HasType]
  constructor
  · rintro empty ⟨t, member, solid⟩
    refine empty _ ⟨⟨t, member, rfl⟩, ?_⟩
    simp [Text.lower_strip_eq_nil_iff, solid]
  · rintro blank _ ⟨⟨t, member, rfl⟩, filled⟩
    refine blank ⟨t, member, ?_⟩
    simpa [Text.lower_strip_eq_nil_iff] using filled

/-- Types that are in normal form are all there is to a list. -/
theorem eq_nil_iff_not_hasType (normal : normalizeTexts texts = texts) : texts = [] ↔ ¬ HasType texts := by
  rw [← normalizeTexts_eq_nil_iff, normal]

end Catalog

open Catalog (HasType normalizeTexts)

/-- The lists that types are taken from, the one that counts first before the others. -/
structure TypeTiers where
  own : List Text
  catalog : List Text
  fallback : List Text

namespace TypeTiers

variable {tiers : TypeTiers}

/-- The first of the lists that has a type; nothing if none has. -/
def first (tiers : TypeTiers) : List Text :=
  ([tiers.own, tiers.catalog, tiers.fallback].find? fun list => HasType list).getD []

/-- The request's own list is there but has no type, and one of the others has. -/
def OwnInTheWay (tiers : TypeTiers) : Prop :=
  tiers.own ≠ [] ∧ ¬ HasType tiers.own ∧ (HasType tiers.catalog ∨ HasType tiers.fallback)

/-- What is offered, by what is typed, comes from the first list that has a type. -/
structure Supply (tiers : TypeTiers) (offers : Text → List Text) : Prop where
  whole : offers [] = normalizeTexts tiers.first
  nothing : offers [] = [] →
    ¬ HasType tiers.own ∧ ¬ HasType tiers.catalog ∧ ¬ HasType tiers.fallback
  begun : ∀ typed, offers typed =
    (normalizeTexts tiers.first).filter fun value => (Text.lower typed).isPrefixOf value

theorem hasType_first_iff :
    HasType tiers.first ↔ HasType tiers.own ∨ HasType tiers.catalog ∨ HasType tiers.fallback := by
  unfold first
  by_cases own : HasType tiers.own
  · simp [own]
  · by_cases catalog : HasType tiers.catalog
    · simp [own, catalog]
    · by_cases fallback : HasType tiers.fallback
      · simp [own, catalog, fallback]
      · simp [own, catalog, fallback]

/-- The list that the types are taken from in fact. -/
def taken (tiers : TypeTiers) : List Text := if tiers.own = [] then tiers.first else tiers.own

theorem typesOf_eq_taken (normal : normalizeTexts tiers.catalog = tiers.catalog) :
    Suggestion.typesOf tiers.own (some tiers.catalog) tiers.fallback = normalizeTexts tiers.taken := by
  obtain ⟨own, catalog, fallback⟩ := tiers
  cases own with
  | cons t rest => rfl
  | nil =>
    cases catalog with
    | cons t rest =>
      have has : HasType (t :: rest) := by
        by_contra none
        cases (Catalog.eq_nil_iff_not_hasType normal).2 none
      simpa [Suggestion.typesOf, taken, first, has] using normal.symm
    | nil =>
      by_cases has : HasType fallback
      · simp [Suggestion.typesOf, taken, first, has]
      · simp [Suggestion.typesOf, taken, first, has, Catalog.normalizeTexts_eq_nil_iff.2 has]

/-- The types are those of the first list with a type unless the request's own list is in the way. -/
theorem normalizeTexts_taken_eq_iff :
    normalizeTexts tiers.taken = normalizeTexts tiers.first ↔ ¬ tiers.OwnInTheWay := by
  unfold taken OwnInTheWay
  by_cases absent : tiers.own = []
  · simp [absent]
  · rw [if_neg absent]
    by_cases own : HasType tiers.own
    · have same : tiers.first = tiers.own := by simp [first, own]
      simp [same, own]
    · rw [Catalog.normalizeTexts_eq_nil_iff.2 own, eq_comm, Catalog.normalizeTexts_eq_nil_iff,
        hasType_first_iff]
      simp [absent, own]

theorem normalizeTexts_taken_of_ownInTheWay (inTheWay : tiers.OwnInTheWay) :
    normalizeTexts tiers.taken = [] := by
  obtain ⟨there, blank, _⟩ := inTheWay
  rw [taken, if_neg there, Catalog.normalizeTexts_eq_nil_iff]
  exact blank

end TypeTiers

/-- The lists for the types of nodes or of links, where a type is asked for. -/
def SuggestionSource.typeTiers? (source : SuggestionSource) : ContextKind → Option TypeTiers
  | .nodeTypeValue =>
    some ⟨source.nodeTypes, (source.catalog.map (·.nodeTypes)).getD [], source.fallbackNodeTypes⟩
  | .linkTypeValue =>
    some ⟨source.linkTypes, (source.catalog.map (·.linkTypes)).getD [], source.fallbackLinkTypes⟩
  | _ => none

namespace Suggestion

variable {source : SuggestionSource} {context : EditingContext} {tiers : TypeTiers}

/-- Without a catalog there are no types in it. -/
theorem typesOf_getD (own : List Text) (catalog : Option (List Text)) (fallback : List Text) :
    typesOf own catalog fallback = typesOf own (some (catalog.getD [])) fallback := by
  cases catalog <;> rfl

theorem normalizeTexts_map_getD {part : Catalog → List Text}
    (normal : ∀ catalog, source.catalog = some catalog → normalizeTexts (part catalog) = part catalog) :
    normalizeTexts ((source.catalog.map part).getD []) = (source.catalog.map part).getD [] := by
  cases held : source.catalog with
  | none => rfl
  | some catalog => exact normal catalog held

@[simp] theorem types_nil (values : List Text) : types values [] = values := by
  simp [types, Text.lower_nil]

/-- Where a type is asked for, those of the list that is taken are offered which begin as typed. -/
theorem offered_eq_types (asked : source.typeTiers? context.kind = some tiers)
    (profile : ∀ catalog, source.catalog = some catalog → ∃ raw, Catalog.ofDatum raw = .ok catalog)
    (typed : Text) :
    offered { context with typed } source = types (normalizeTexts tiers.taken) typed := by
  have normal : ∀ catalog, source.catalog = some catalog → catalog.Normal := by
    intro catalog held
    obtain ⟨raw, read⟩ := profile catalog held
    rw [Catalog.ofDatum_eq_ofFields, Catalog.ofFields_eq_ok_iff] at read
    exact read.normal
  unfold SuggestionSource.typeTiers? at asked
  split at asked
  next kind =>
    cases asked
    have same := normalizeTexts_map_getD fun catalog held => (normal catalog held).nodeTypes
    simp only [offered, kind, nodeTypes]
    rw [typesOf_getD, ← TypeTiers.typesOf_eq_taken same]
  next kind =>
    cases asked
    have same := normalizeTexts_map_getD fun catalog held => (normal catalog held).linkTypes
    simp only [offered, kind, linkTypes]
    rw [typesOf_getD, ← TypeTiers.typesOf_eq_taken same]
  next => cases asked

/-- What is offered for a type comes from the first list with a type unless the request's own list is in
the way; then nothing is offered. -/
theorem types_of_first_list_iff (asked : source.typeTiers? context.kind = some tiers)
    (profile : ∀ catalog, source.catalog = some catalog → ∃ raw, Catalog.ofDatum raw = .ok catalog) :
    (tiers.Supply (fun typed => offered { context with typed } source) ↔ ¬ tiers.OwnInTheWay) ∧
      (tiers.OwnInTheWay → ∀ typed, offered { context with typed } source = []) := by
  have offers := offered_eq_types asked profile
  constructor
  · rw [← TypeTiers.normalizeTexts_taken_eq_iff]
    constructor
    · intro supply
      have whole := supply.whole
      rwa [offers, types_nil] at whole
    · intro same
      refine ⟨?_, ?_, ?_⟩
      · rw [offers, types_nil, same]
      · intro nothing
        rw [offers, types_nil, same, Catalog.normalizeTexts_eq_nil_iff,
          TypeTiers.hasType_first_iff] at nothing
        simpa [not_or] using nothing
      · intro typed
        rw [offers, same, types]
  · rintro inTheWay typed
    rw [offers, TypeTiers.normalizeTexts_taken_of_ownInTheWay inTheWay]
    rfl

/-- The catalog's types are offered where the request has none of its own. -/
theorem types_of_catalog_offered :
    let raw : Datum := .mapping [("nodeTypes", .list [.text " Queue ", .text "Topic", .text "queue"])]
    let catalog : Catalog := { nodeTypes := ["queue", "topic"] }
    let source : SuggestionSource := { catalog := some catalog, fallbackNodeTypes := ["service"] }
    let tiers : TypeTiers := ⟨[], ["queue", "topic"], ["service"]⟩
    let context : EditingContext := { kind := .nodeTypeValue, area := .nodes }
    source.typeTiers? context.kind = some tiers ∧ Catalog.ofDatum raw = .ok catalog ∧
      ¬ tiers.OwnInTheWay ∧ tiers.Supply (fun typed => offered { context with typed } source) ∧
      offered { context with typed := "T" } source = ["topic"] := by
  intro raw catalog source tiers context
  have read : Catalog.ofDatum raw = .ok catalog := by decide
  have free : ¬ tiers.OwnInTheWay := fun inTheWay => inTheWay.1 rfl
  have profile : ∀ held, source.catalog = some held → ∃ raw, Catalog.ofDatum raw = .ok held := by
    rintro _ ⟨rfl⟩
    exact ⟨raw, read⟩
  exact ⟨rfl, read, free, (types_of_first_list_iff rfl profile).1.2 free, by decide⟩

/-- A blank text in the request's own list keeps the type of the catalog from being offered. -/
theorem blank_text_hides_catalog :
    let raw : Datum := .mapping [("nodeTypes", .list [.text "queue"])]
    let catalog : Catalog := { nodeTypes := ["queue"] }
    let source : SuggestionSource := { nodeTypes := [" "], catalog := some catalog }
    let context : EditingContext := { kind := .nodeTypeValue, area := .nodes }
    Catalog.ofDatum raw = .ok catalog ∧ offered context source = [] ∧
      ¬ TypeTiers.Supply ⟨[" "], ["queue"], []⟩ (fun typed => offered { context with typed } source) := by
  intro raw catalog source context
  refine ⟨by decide, by decide, ?_⟩
  intro supply
  have offers : offered context source = [] := by decide
  exact (supply.nothing offers).2.1 ⟨"queue", by decide, by decide⟩

end Suggestion
end GraphCompletion
