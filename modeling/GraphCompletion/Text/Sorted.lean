import GraphCompletion.Text.Basic

/-!
# Sorted sets of texts

Texts are ordered by code point. A set of texts is listed strictly increasing, so two lists with the
same members give the same listing.
-/
namespace GraphCompletion.Text

/-- Puts a text in its place in a strictly increasing list, once. -/
def insertSorted (t : Text) : List Text → List Text
  | [] => [t]
  | u :: rest => if t < u then t :: u :: rest else if t = u then u :: rest else u :: insertSorted t rest

/-- The members of a list in strictly increasing order. -/
def sortedSet (ts : List Text) : List Text := ts.foldr insertSorted []

@[simp] theorem mem_insertSorted {t u : Text} {ts : List Text} :
    u ∈ insertSorted t ts ↔ u = t ∨ u ∈ ts := by
  induction ts with
  | nil => simp [insertSorted]
  | cons v rest ih =>
    rw [insertSorted]
    split
    · simp
    · split
      · next same => subst same; simp
      · simp [ih]; grind

@[simp] theorem mem_sortedSet {t : Text} {ts : List Text} : t ∈ sortedSet ts ↔ t ∈ ts := by
  induction ts with
  | nil => simp [sortedSet]
  | cons u rest ih =>
    have unfolded : sortedSet (u :: rest) = insertSorted u (sortedSet rest) := rfl
    rw [unfolded, mem_insertSorted, ih, List.mem_cons]

theorem pairwise_insertSorted {t : Text} {ts : List Text} (sorted : ts.Pairwise (· < ·)) :
    (insertSorted t ts).Pairwise (· < ·) := by
  induction ts with
  | nil => simp [insertSorted]
  | cons u rest ih =>
    obtain ⟨first, others⟩ := List.pairwise_cons.1 sorted
    rw [insertSorted]
    split
    · next below =>
      apply List.pairwise_cons.2 ⟨?_, sorted⟩
      intro v member
      rcases List.mem_cons.1 member with rfl | later
      · exact below
      · exact List.lt_trans below (first v later)
    · next notBelow =>
      split
      · exact sorted
      · next different =>
        have above : u < t := Classical.byContradiction fun notAbove =>
          different (List.le_antisymm (List.not_lt.1 notAbove) (List.not_lt.1 notBelow))
        apply List.pairwise_cons.2 ⟨?_, ih others⟩
        intro v member
        rcases mem_insertSorted.1 member with rfl | later
        · exact above
        · exact first v later

/-- The listing is strictly increasing. -/
theorem pairwise_sortedSet (ts : List Text) : (sortedSet ts).Pairwise (· < ·) := by
  induction ts with
  | nil => exact List.Pairwise.nil
  | cons u rest ih => exact pairwise_insertSorted ih

end GraphCompletion.Text
