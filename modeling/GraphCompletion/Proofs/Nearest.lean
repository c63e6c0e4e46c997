import GraphCompletion.Lines
import Mathlib.Logic.Basic

/-!
# Nearest lines

Every upward scan asks for the nearest line at or above an index that has a property. Here the scans
of `Lines.upTo` are tied to that reading: what a scan finds is the line with the greatest index up to
the bound that has the property, and a scan finds nothing only where no line has it.
-/
namespace GraphCompletion.Lines

variable {lines : List Text} {index : Int}

theorem getElem?_eq_get {lines : List Text} {i : Nat} (inside : i < lines.length) :
    lines[i]? = some (get lines i) := by
  simp [get, List.getD_eq_getElem?_getD, List.getElem?_eq_getElem inside]

theorem get_eq_of_getElem? {lines : List Text} {i : Nat} {line : Text}
    (held : lines[i]? = some line) : get lines i = line := by
  simp [get, List.getD_eq_getElem?_getD, held]

/-- The greatest index up to a bound that has a property. -/
structure Nearest (index : Int) (P : Nat → Prop) (i : Nat) : Prop where
  reached : (i : Int) ≤ index
  holds : P i
  passed : ∀ j, i < j → (j : Int) ≤ index → ¬ P j

namespace Nearest

variable {P Q : Nat → Prop} {i j : Nat}

theorem unique (first : Nearest index P i) (second : Nearest index P j) : i = j := by
  rcases Nat.lt_trichotomy i j with less | same | greater
  · exact absurd second.holds (first.passed j less second.reached)
  · exact same
  · exact absurd first.holds (second.passed i greater first.reached)

/-- Only the lines from the nearest one on have to agree on the property. -/
theorem congr (nearest : Nearest index P i) (same : ∀ j, i ≤ j → (j : Int) ≤ index → (P j ↔ Q j)) :
    Nearest index Q i where
  reached := nearest.reached
  holds := (same i (Nat.le_refl i) nearest.reached).1 nearest.holds
  passed := fun j later bound held =>
    nearest.passed j later bound ((same j (Nat.le_of_lt later) bound).2 held)

/-- One line more that lacks the property does not count. -/
theorem succ_iff {bound : Nat} (lacks : ¬ P (bound + 1)) :
    Nearest (bound + 1 : Nat) P i ↔ Nearest bound P i := by
  constructor
  · intro nearest
    have reached := nearest.reached
    have other : i ≠ bound + 1 := by
      rintro rfl
      exact lacks nearest.holds
    exact ⟨by omega, nearest.holds, fun j later upTo => nearest.passed j later (by omega)⟩
  · intro nearest
    have reached := nearest.reached
    refine ⟨by omega, nearest.holds, fun j later upTo held => ?_⟩
    by_cases last : j = bound + 1
    · exact lacks (last ▸ held)
    · exact nearest.passed j later (by omega) held

/-- With a line that has the property there is a nearest one, at or below it. -/
theorem exists_of_holds {i : Nat} (reached : (i : Int) ≤ index) (holds : P i) :
    ∃ j, i ≤ j ∧ Nearest index P j := by
  by_cases last : ∀ j, i < j → (j : Int) ≤ index → ¬ P j
  · exact ⟨i, Nat.le_refl i, reached, holds, last⟩
  · simp only [not_forall, not_not] at last
    obtain ⟨k, later, bound, held⟩ := last
    obtain ⟨j, above, nearest⟩ := exists_of_holds bound held
    exact ⟨j, by omega, nearest⟩
termination_by (index - i).toNat

theorem exists_or_none (index : Int) (P : Nat → Prop) :
    (∃ i, Nearest index P i) ∨ ∀ i : Nat, (i : Int) ≤ index → ¬ P i := by
  by_cases some : ∃ i : Nat, (i : Int) ≤ index ∧ P i
  · obtain ⟨i, reached, holds⟩ := some
    obtain ⟨j, _, nearest⟩ := exists_of_holds reached holds
    exact .inl ⟨j, nearest⟩
  · exact .inr fun i reached holds => some ⟨i, reached, holds⟩

end Nearest

/-- The entries of an upward scan stand in falling order of their indices. -/
theorem pairwise_upTo (lines : List Text) (index : Int) :
    (upTo lines index).Pairwise fun entry other => other.2 < entry.2 := by
  have rising : lines.zipIdx.Pairwise fun entry other => entry.2 < other.2 := by
    have indices : (lines.zipIdx.map Prod.snd).Pairwise (· < ·) := by
      rw [List.zipIdx_map_snd]
      exact List.pairwise_lt_range'
    exact List.pairwise_map.1 indices
  exact List.pairwise_reverse.2 rising.take

/-- A scan that stops at an entry has passed every line between it and the bound. -/
theorem mem_before_of_upTo_eq {before after : List (Text × Nat)} {entry : Text × Nat}
    (cut : upTo lines index = before ++ entry :: after) {other : Text} {j : Nat}
    (held : lines[j]? = some other) (later : entry.2 < j) (bound : (j : Int) ≤ index) :
    (other, j) ∈ before := by
  have member : (other, j) ∈ before ++ entry :: after := by
    rw [← cut]
    exact mem_upTo_iff.2 ⟨held, bound⟩
  have falling := pairwise_upTo lines index
  rw [cut, List.pairwise_append, List.pairwise_cons] at falling
  rcases List.mem_append.1 member with inside | rest
  · exact inside
  · rcases List.mem_cons.1 rest with same | inside
    · simp [← same] at later
    · have above := falling.2.1.1 _ inside
      simp only at above
      omega

theorem find?_upTo_eq_some_iff {p : Text × Nat → Bool} {line : Text} {i : Nat} :
    (upTo lines index).find? p = some (line, i) ↔ lines[i]? = some line ∧
      Nearest index (fun j => ∃ other, lines[j]? = some other ∧ p (other, j) = true) i := by
  have found {line : Text} {i : Nat} (found : (upTo lines index).find? p = some (line, i)) :
      lines[i]? = some line ∧
        Nearest index (fun j => ∃ other, lines[j]? = some other ∧ p (other, j) = true) i := by
    obtain ⟨holds, before, after, cut, passed⟩ := List.find?_eq_some_iff_append.1 found
    have member := mem_upTo_iff.1 (List.mem_of_find?_eq_some found)
    refine ⟨member.1, member.2, ⟨line, member.1, holds⟩, ?_⟩
    rintro j later bound ⟨other, held, again⟩
    have skipped := passed _ (mem_before_of_upTo_eq cut held later bound)
    simp [again] at skipped
  constructor
  · exact found
  · rintro ⟨held, nearest⟩
    cases outcome : (upTo lines index).find? p with
    | none =>
      obtain ⟨other, present, holds⟩ := nearest.holds
      have member : (other, i) ∈ upTo lines index := mem_upTo_iff.2 ⟨present, nearest.reached⟩
      exact absurd holds (List.find?_eq_none.1 outcome _ member)
    | some entry =>
      obtain ⟨present, first⟩ := found outcome
      have same : i = entry.2 := nearest.unique first
      subst same
      rw [present] at held
      simp only [Option.some.injEq] at held
      simp [← held]

/-- A scan that keeps the index finds the nearest line with the property that it tests. -/
theorem map_find?_upTo_eq_some_iff {p : Text × Nat → Bool} {P : Nat → Prop} {i : Nat}
    (tested : ∀ j, P j ↔ ∃ line, lines[j]? = some line ∧ p (line, j) = true) :
    ((upTo lines index).find? p).map (·.2) = some i ↔ Nearest index P i := by
  rw [Option.map_eq_some_iff]
  constructor
  · rintro ⟨⟨line, j⟩, found, rfl⟩
    exact (find?_upTo_eq_some_iff.1 found).2.congr fun j _ _ => (tested j).symm
  · intro nearest
    obtain ⟨line, held, _⟩ := (tested i).1 nearest.holds
    refine ⟨(line, i), find?_upTo_eq_some_iff.2 ⟨held, nearest.congr ?_⟩, rfl⟩
    exact fun j _ _ => tested j

/-- A scan for a value stops where a scan for a line with such a value stops. -/
theorem findSome?_upTo_eq_bind {α : Type} (f : Text × Nat → Option α) :
    (upTo lines index).findSome? f =
      ((upTo lines index).find? fun entry => (f entry).isSome).bind f := by
  induction upTo lines index with
  | nil => rfl
  | cons entry rest ih =>
    cases value : f entry with
    | none => simp [value, ih]
    | some b => simp [value]

end GraphCompletion.Lines
