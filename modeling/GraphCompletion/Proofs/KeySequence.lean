import GraphCompletion.Proofs.OfferedKeys

/-!
# Filling in an item

Inside an item one key is offered at a time, the first that is not in use. When the key that is offered is
accepted, round after round, the keys of the section that were not in use come up one by one in their
order, and nothing is offered once all of them are there. The order is that of the grammar, the required
keys before the others.
-/
namespace GraphCompletion

variable {spec : Option ItemSpec} {used : List Text}

/-- The texts of both key lists, required ones first, that are neither blank nor the forbidden key. -/
def ItemSpec.listedKeys (item : ItemSpec) : List Text :=
  ((item.requiredKeys.getD [] ++ item.orderedKeys.getD []).filterMap Datum.text?).filter fun key =>
    Text.isBlank key = false ∧ Text.strip key ≠ forbiddenKey

theorem ItemSpec.offeredKeys_eq (item : ItemSpec) : item.offeredKeys = item.listedKeys.eraseDups := by
  have same : (fun key => !Text.isBlank key && Text.strip key != forbiddenKey) =
      fun key => decide (Text.isBlank key = false ∧ Text.strip key ≠ forbiddenKey) := by
    funext key
    rw [Bool.eq_iff_iff]
    simp
  simp only [offeredKeys, offerable, listedKeys, same, List.filterMap_append, List.filter_append]

namespace Suggestion

/-- The keys of a section that are not in use, in their order. -/
def unusedKeys (spec : Option ItemSpec) (used : List Text) : List Text :=
  (keysOf spec).filter fun key => !used.contains key

theorem nodup_unusedKeys : (unusedKeys spec used).Nodup := nodup_keysOf.sublist List.filter_sublist

/-- The first unused key that begins with what is typed is offered. -/
theorem nextKey_eq_find? (typed : Text) :
    nextKey spec used typed =
      ((unusedKeys spec used).find? fun key => (normalizeTyped typed).isPrefixOf (Text.lower key)).toList := by
  simp only [nextKey, List.take_one, List.head?_filter]
  rfl

/-- Where nothing is typed, the first unused key is offered. -/
theorem nextKey_nil : nextKey spec used [] = (unusedKeys spec used).head?.toList := by
  have all : (fun key => (normalizeTyped []).isPrefixOf (Text.lower key)) = fun _ => true := by
    funext key
    simp
  rw [nextKey_eq_find?, all]
  cases unusedKeys spec used with
  | nil => rfl
  | cons key rest => rfl

/-- Of distinct keys, those that are not among the first few are the others. -/
theorem filter_not_contains_take {keys : List Text} (distinct : keys.Nodup) (count : Nat) :
    (keys.filter fun key => !(keys.take count).contains key) = keys.drop count := by
  have whole := List.take_append_drop count keys
  rw [← whole] at distinct
  have apart := (List.nodup_append.1 distinct).2.2
  calc (keys.filter fun key => !(keys.take count).contains key)
      = ((keys.take count).filter fun key => !(keys.take count).contains key) ++
          ((keys.drop count).filter fun key => !(keys.take count).contains key) := by
        rw [← List.filter_append, whole]
    _ = [] ++ keys.drop count := by
        congr 1
        · exact List.filter_eq_nil_iff.2 fun key member => by simpa using member
        · exact List.filter_eq_self.2 fun key member => by
            simpa using fun first => apart key first key member rfl
    _ = keys.drop count := List.nil_append _

/-- Once the first few unused keys are in use, the others are left. -/
theorem unusedKeys_append_take (count : Nat) :
    unusedKeys spec (used ++ (unusedKeys spec used).take count) = (unusedKeys spec used).drop count := by
  rw [← filter_not_contains_take nodup_unusedKeys count]
  simp only [unusedKeys, List.filter_filter]
  refine List.filter_congr fun key _ => ?_
  rw [Bool.eq_iff_iff]
  simp [and_comm]

/-- The keys in use after some rounds of accepting the key that is offered where nothing is typed. -/
def usedAfter (spec : Option ItemSpec) (used : List Text) : Nat → List Text
  | 0 => used
  | rounds + 1 => usedAfter spec used rounds ++ nextKey spec (usedAfter spec used rounds) []

/-- After some rounds as many of the unused keys, the first ones, have been accepted. -/
theorem usedAfter_eq (rounds : Nat) :
    usedAfter spec used rounds = used ++ (unusedKeys spec used).take rounds := by
  induction rounds with
  | zero => simp [usedAfter]
  | succ rounds ih =>
    rw [usedAfter, ih, nextKey_nil, unusedKeys_append_take, List.head?_drop, List.append_assoc,
      ← List.take_add_one]

/-- In every round the next of the unused keys is offered, and nothing when there is none left. -/
theorem nextKey_usedAfter (round : Nat) :
    nextKey spec (usedAfter spec used round) [] = (unusedKeys spec used)[round]?.toList := by
  rw [usedAfter_eq, nextKey_nil, unusedKeys_append_take, List.head?_drop]

/-- Accepting what is offered fills in an item with the keys that were not in use, each once and in the
order of the section, and then nothing more is offered. That order is the one in which the grammar first
lists the keys. With something typed, the first unused key that begins with it is offered, if any. -/
theorem keys_offered_in_order (item : ItemSpec) (used : List Text) :
    let keys := keysOf (some item)
    let unused := keys.filter fun key => !used.contains key
    (∀ round, nextKey (some item) (usedAfter (some item) used round) [] = unused[round]?.toList) ∧
    unused.Nodup ∧
    (∀ listed, FirstOccurrences item.listedKeys listed ↔ listed = keys) ∧
    ∀ typed, nextKey (some item) used typed =
      (unused.find? fun key => (normalizeTyped typed).isPrefixOf (Text.lower key)).toList := by
  intro keys unused
  refine ⟨nextKey_usedAfter, nodup_unusedKeys, fun listed => ?_, nextKey_eq_find?⟩
  rw [firstOccurrences_iff, ← item.offeredKeys_eq]
  rfl

/-- A grammar with repeated, blank, padded and forbidden keys. -/
example :
    let item : ItemSpec := .ofTexts ["name", "", " type", "id", "to"] ["to", " id ", "name"] "name"
    (List.range 4).map (fun round => nextKey (some item) (usedAfter (some item) ["name"] round) []) =
      [["to".toList], [" type".toList], [], []] := by
  decide

end Suggestion
end GraphCompletion
