import GraphCompletion.Text.Basic
import Mathlib.Data.List.Basic
import Mathlib.Data.List.Induction

/-!
# First occurrences

Lists of keys and of types are freed of repeats. What is left has the same members, in the order in which
each of them stands first; no other list has both.
-/
namespace GraphCompletion

variable {texts kept other : List Text} {t : Text}

/-- The members of a list, in the order in which each stands first. -/
structure FirstOccurrences (texts kept : List Text) : Prop where
  same : ∀ t, t ∈ kept ↔ t ∈ texts
  ordered : kept.Pairwise fun first second => texts.idxOf first < texts.idxOf second

namespace FirstOccurrences

/-- No member stands before itself, so none comes twice. -/
theorem nodup (first : FirstOccurrences texts kept) : kept.Nodup :=
  first.ordered.imp fun less => ne_of_apply_ne texts.idxOf (Nat.ne_of_lt less)

theorem unique (first : FirstOccurrences texts kept) (second : FirstOccurrences texts other) :
    kept = other := by
  have perm : kept.Perm other :=
    (List.perm_ext_iff_of_nodup first.nodup second.nodup).2 fun t =>
      (first.same t).trans (second.same t).symm
  refine perm.eq_of_pairwise ?_ first.ordered second.ordered
  intro a b _ _ less greater
  exact absurd greater (Nat.lt_asymm less)

/-- What is added at the end moves no member's first place. -/
theorem ordered_append (first : FirstOccurrences texts kept) (more : List Text) :
    kept.Pairwise fun a b => (texts ++ more).idxOf a < (texts ++ more).idxOf b := by
  refine first.ordered.imp_of_mem fun {a b} member member' less => ?_
  rwa [List.idxOf_append_of_mem ((first.same a).1 member),
    List.idxOf_append_of_mem ((first.same b).1 member')]

/-- A member that comes again at the end changes nothing. -/
theorem append_old (first : FirstOccurrences texts kept) (old : t ∈ texts) :
    FirstOccurrences (texts ++ [t]) kept where
  same a := by
    rw [first.same, List.mem_append, List.mem_singleton]
    exact ⟨.inl, fun member => member.elim id fun last => last ▸ old⟩
  ordered := first.ordered_append [t]

/-- A new member at the end comes last. -/
theorem append_new (first : FirstOccurrences texts kept) (new : t ∉ texts) :
    FirstOccurrences (texts ++ [t]) (kept ++ [t]) where
  same a := by simp only [List.mem_append, List.mem_singleton, first.same]
  ordered := by
    refine List.pairwise_append.2
      ⟨first.ordered_append [t], List.pairwise_singleton _ _, fun a member b last => ?_⟩
    have inside := (first.same a).1 member
    have before := List.idxOf_lt_length_iff.2 inside
    rw [List.mem_singleton.1 last, List.idxOf_append_of_mem inside, List.idxOf_append_of_notMem new]
    omega

end FirstOccurrences

theorem firstOccurrences_eraseDups (texts : List Text) : FirstOccurrences texts texts.eraseDups := by
  induction texts using List.reverseRecOn with
  | nil => exact ⟨fun _ => Iff.rfl, List.Pairwise.nil⟩
  | append_singleton texts t ih =>
    by_cases old : t ∈ texts
    · have same : (texts ++ [t]).eraseDups = texts.eraseDups := by
        simp [List.eraseDups_append, List.removeAll, old]
      rw [same]
      exact ih.append_old old
    · have longer : (texts ++ [t]).eraseDups = texts.eraseDups ++ [t] := by
        simp [List.eraseDups_append, List.removeAll, old, List.eraseDups_cons]
      rw [longer]
      exact ih.append_new old

/-- What is left without repeats is fixed by its members and their order. -/
theorem firstOccurrences_iff : FirstOccurrences texts kept ↔ kept = texts.eraseDups := by
  constructor
  · intro first
    exact first.unique (firstOccurrences_eraseDups texts)
  · rintro rfl
    exact firstOccurrences_eraseDups texts

/-- Leaving out repeats leaves none. -/
theorem nodup_eraseDups (texts : List Text) : texts.eraseDups.Nodup :=
  (firstOccurrences_eraseDups texts).nodup

end GraphCompletion
