import GraphCompletion.Proofs.FirstOccurrences
import GraphCompletion.Proofs.KeyLabels

/-!
# Offered keys

Which keys the labels of an item stand for, exactly: the key that opens an item, and the keys of the
section that the item does not have yet. The keys of a section never hold the forbidden one, for they
are all collected by one function. The key that opens an item is not collected by it, and is the one
way by which the forbidden key is offered.
-/
namespace GraphCompletion

open ItemSpec (forbiddenKey)

variable {key label typed : Text} {area : Section} {spec : Option ItemSpec} {used : List Text}

/-- What is collected from a key list is neither blank nor the forbidden key. -/
theorem ItemSpec.strip_ne_of_mem_offerable {keys : Option (List Datum)} (collected : key ∈ offerable keys) :
    Text.strip key ≠ forbiddenKey := by
  have passed := (List.mem_filter.1 collected).2
  simp only [Bool.and_eq_true, bne_iff_ne] at passed
  exact passed.2

namespace Suggestion

/-- The forbidden key is not among the keys of a section, whatever the grammar lists. -/
theorem strip_ne_of_mem_keysOf (known : key ∈ keysOf spec) : Text.strip key ≠ forbiddenKey := by
  cases spec with
  | none => simp [keysOf] at known
  | some item =>
    simp only [keysOf, Option.map_some, Option.getD_some, ItemSpec.offeredKeys, List.mem_eraseDups,
      List.mem_append] at known
    cases known with
    | inl required => exact ItemSpec.strip_ne_of_mem_offerable required
    | inr ordered => exact ItemSpec.strip_ne_of_mem_offerable ordered

theorem nodup_keysOf : (keysOf spec).Nodup := by
  cases spec with
  | none => exact List.nodup_nil
  | some item => exact nodup_eraseDups _

/-- An item is continued with a key of the section that is not its opening key and not there yet; a
node that has its last key is not continued. -/
theorem mem_continuationKeys_iff : key ∈ continuationKeys spec area used ↔
    ¬(area = .nodes ∧ Item.terminalKey ∈ used) ∧ key ∈ keysOf spec ∧ key ≠ startKey spec area ∧
      key ∉ used := by
  unfold continuationKeys
  by_cases ended : area = .nodes ∧ Item.terminalKey ∈ used
  · simp [ended]
  · simp [ended]

variable {source : SuggestionSource} {context : EditingContext}

/-- What is offered in a collection: the key that opens an item, and the keys that continue one. -/
theorem mem_itemKeys_iff : label ∈ itemKeys source area typed ↔
    (label = "- ".toList ++ startKey (source.spec.itemSpec? area) area ∧
      matchesTyped (normalizeTyped typed) (startKey (source.spec.itemSpec? area) area) = true) ∨
    ∃ key, label = "  ".toList ++ key ∧ source.canContinueItem = true ∧
      key ∈ continuationKeys (source.spec.itemSpec? area) area source.itemKeys ∧
      matchesTyped (normalizeTyped typed) key = true := by
  unfold itemKeys
  simp only [List.mem_append, List.mem_map]
  constructor
  · intro offered
    rcases offered with opening | ⟨key, following, same⟩
    · left
      split at opening
      next starts => exact ⟨List.mem_singleton.1 opening, starts⟩
      next => cases opening
    · right
      split at following
      next continues =>
        have kept := List.mem_filter.1 following
        exact ⟨key, same.symm, continues, kept.1, kept.2⟩
      next => cases following
  · intro allowed
    rcases allowed with ⟨same, starts⟩ | ⟨key, same, continues, next, starts⟩
    · left
      rw [if_pos starts]
      exact List.mem_singleton.2 same
    · right
      refine ⟨key, ?_, same.symm⟩
      rw [if_pos continues]
      exact List.mem_filter.2 ⟨next, starts⟩

/-- What stands after the dash of a label is the key it names. -/
theorem names_itemKey_of_opening (named : Names .itemKey ("- ".toList ++ label) key) : key = label := by
  cases named with
  | inl opening => simpa using opening.symm
  | inr following => simp at following

theorem names_itemKey_of_following (named : Names .itemKey ("  ".toList ++ label) key) :
    key = label := by
  cases named with
  | inl opening => simp at opening
  | inr following => simpa using following.symm

/-- Only a label that opens an item can stand for the forbidden key. -/
theorem opening_of_forbidden (asked : context.kind = .key ∨ context.kind = .itemKey)
    (member : label ∈ offered context source) (named : Names context.kind label key)
    (forbidden : Text.strip key = forbiddenKey) :
    context.kind = .itemKey ∧
      label = "- ".toList ++ startKey (source.spec.itemSpec? context.area) context.area ∧
      key = startKey (source.spec.itemSpec? context.area) context.area ∧
      matchesTyped (normalizeTyped context.typed) key = true := by
  cases asked with
  | inl inner =>
    rw [inner] at named
    obtain rfl : label = key := named
    simp only [offered, inner] at member
    split at member
    · exact absurd forbidden (strip_ne_of_mem_keysOf (mem_keysOf_of_mem_nextKey member))
    · cases member
  | inr item =>
    rw [item] at named
    simp only [offered, item] at member
    rcases mem_itemKeys_iff.1 member with ⟨rfl, starts⟩ | ⟨other, rfl, _, next, _⟩
    · obtain rfl := names_itemKey_of_opening named
      exact ⟨item, rfl, rfl, starts⟩
    · obtain rfl := names_itemKey_of_following named
      exact absurd forbidden (strip_ne_of_mem_keysOf (mem_continuationKeys_iff.1 next).2.1)

/-- Where the keys of items are asked for, the forbidden key is offered in no way but as the key that
opens an item. It is not offered at all exactly if the opening key is another one, or does not begin
with what is typed. -/
theorem no_forbidden_key_offered_iff (asked : context.kind = .key ∨ context.kind = .itemKey) :
    (∀ label ∈ offered context source, ∀ key, Names context.kind label key →
      Text.strip key = forbiddenKey → context.kind = .itemKey ∧
        label = "- ".toList ++ startKey (source.spec.itemSpec? context.area) context.area) ∧
    ((∀ label ∈ offered context source, ∀ key, Names context.kind label key →
        Text.strip key ≠ forbiddenKey) ↔
      (context.kind = .itemKey →
        matchesTyped (normalizeTyped context.typed)
          (startKey (source.spec.itemSpec? context.area) context.area) = true →
        Text.strip (startKey (source.spec.itemSpec? context.area) context.area) ≠ forbiddenKey)) := by
  constructor
  · intro label member key named forbidden
    have opening := opening_of_forbidden asked member named forbidden
    exact ⟨opening.1, opening.2.1⟩
  · constructor
    · intro never item starts
      have member : "- ".toList ++ startKey (source.spec.itemSpec? context.area) context.area ∈
          offered context source := by
        simp only [offered, item]
        exact mem_itemKeys_iff.2 (.inl ⟨rfl, starts⟩)
      refine never _ member _ ?_
      rw [item]
      exact .inl rfl
    · intro harmless label member key named forbidden
      obtain ⟨item, _, rfl, starts⟩ := opening_of_forbidden asked member named forbidden
      exact harmless item starts forbidden

/-- A grammar that lists and requires the forbidden key offers every other key of an item. -/
theorem no_forbidden_key_offered_after_name :
    let item : ItemSpec := .ofTexts ["id", "name", "type"] ["id"] "name"
    let source : SuggestionSource :=
      { spec := ⟨none, some item, none⟩, itemKeys := ["name"], canContinueItem := true }
    let context : EditingContext := ⟨.itemKey, .nodes, [], none⟩
    offered context source = ["- name", "  type"] ∧
      ∀ label ∈ offered context source, ∀ key, Names context.kind label key →
        Text.strip key ≠ forbiddenKey := by
  intro item source context
  have harmless : Text.strip (startKey (source.spec.itemSpec? context.area) context.area) ≠
      forbiddenKey := by decide
  refine ⟨by decide, ?_⟩
  exact (no_forbidden_key_offered_iff (.inr rfl)).2.2 fun _ _ => harmless

/-- An item that the grammar opens with the forbidden key is offered with it. -/
theorem forbidden_key_offered_as_opening_key :
    let item : ItemSpec := .ofTexts ["name", "type"] ["name"] "id"
    let source : SuggestionSource := { spec := ⟨none, some item, none⟩ }
    let context : EditingContext := ⟨.itemKey, .nodes, [], none⟩
    "- id".toList ∈ offered context source ∧
      ∃ key, Names context.kind "- id" key ∧ Text.strip key = forbiddenKey := by
  intro item source context
  exact ⟨by decide, "id".toList, .inl rfl, by decide⟩

end Suggestion
end GraphCompletion
