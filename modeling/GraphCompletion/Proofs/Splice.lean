import GraphCompletion.Proofs.Nearest
import Mathlib.Data.List.Basic

/-!
# Replacing a line

Accepting a suggestion replaces the caret's line by a text of one or more lines. The lines above stay
what and where they are, and the new text's own lines stand from the replaced one on.
-/
namespace GraphCompletion

namespace Text

variable {separator : Char}

theorem splitOn_of_not_mem {t : Text} (none : separator ∉ t) : splitOn separator t = [t] := by
  induction t with
  | nil => rfl
  | cons c rest ih =>
    simp only [List.mem_cons, not_or] at none
    rw [splitOn, if_neg fun same => none.1 same.symm, ih none.2]

/-- Texts on both sides of a separator are split apart. -/
theorem splitOn_append_cons (t rest : Text) :
    splitOn separator (t ++ separator :: rest) = splitOn separator t ++ splitOn separator rest := by
  induction t with
  | nil => simp [splitOn]
  | cons c others ih =>
    rw [List.cons_append, splitOn, splitOn]
    split
    · rw [ih, List.cons_append]
    · rw [ih]
      cases pieces : splitOn separator others with
      | nil => exact absurd pieces (splitOn_ne_nil separator others)
      | cons piece rest => rfl

/-- Splitting a joined text splits each of its pieces. -/
theorem splitOn_join {pieces : List Text} (filled : pieces ≠ []) :
    splitOn separator (join [separator] pieces) = pieces.flatMap (splitOn separator) := by
  induction pieces with
  | nil => exact absurd rfl filled
  | cons piece rest ih =>
    cases rest with
    | nil => simp [join]
    | cons next others =>
      have further := ih (List.cons_ne_nil next others)
      unfold join at further ⊢
      rw [List.intercalate_cons_cons, List.append_assoc, List.singleton_append, splitOn_append_cons,
        further, ← List.flatMap_cons]

end Text

namespace Lines

variable {text insertion : Text} {index : Nat}

/-- Lines without separators stand for themselves when each of them is split. -/
theorem flatMap_splitOn {lines : List Text} (single : ∀ line ∈ lines, '\n' ∉ line) :
    lines.flatMap (Text.splitOn '\n') = lines := by
  induction lines with
  | nil => rfl
  | cons line rest ih =>
    rw [List.flatMap_cons, Text.splitOn_of_not_mem (single line (by simp)),
      ih fun other member => single other (by simp [member])]
    rfl

/-- Joined lines are the lines of their text. -/
theorem ofText_join {lines : List Text} (filled : lines ≠ [])
    (single : ∀ line ∈ lines, '\n' ∉ line) : ofText (Text.join ['\n'] lines) = lines := by
  rw [ofText, Text.splitOn_join filled, flatMap_splitOn single]

/-- The text with the line at an index replaced by another text. -/
def replace (text : Text) (index : Nat) (insertion : Text) : Text :=
  Text.join ['\n'] ((ofText text).set index insertion)

theorem ofText_replace (inside : index < (ofText text).length) (insertion : Text) :
    ofText (replace text index insertion) =
      (ofText text).take index ++ ofText insertion ++ (ofText text).drop (index + 1) := by
  have above : ((ofText text).take index).flatMap (Text.splitOn '\n') = (ofText text).take index :=
    flatMap_splitOn fun line member => Text.not_mem_of_mem_splitOn (List.mem_of_mem_take member)
  have below : ((ofText text).drop (index + 1)).flatMap (Text.splitOn '\n') =
      (ofText text).drop (index + 1) :=
    flatMap_splitOn fun line member => Text.not_mem_of_mem_splitOn (List.mem_of_mem_drop member)
  have parts : (ofText text).set index insertion =
      (ofText text).take index ++ insertion :: (ofText text).drop (index + 1) := by
    rw [List.set_eq_take_append_cons_drop, if_pos inside]
  unfold replace
  rw [parts]
  unfold ofText at above below ⊢
  rw [Text.splitOn_join (by simp), List.flatMap_append, List.flatMap_cons, above, below,
    List.append_assoc]

/-- The lines above the replaced one are unchanged. -/
theorem getElem?_replace_of_lt (inside : index < (ofText text).length) {i : Nat} (above : i < index) :
    (ofText (replace text index insertion))[i]? = (ofText text)[i]? := by
  rw [ofText_replace inside, List.append_assoc, List.getElem?_append_left (by simp; omega),
    List.getElem?_take_of_lt above]

/-- The lines of the new text stand from the replaced line on. -/
theorem getElem?_replace_add (inside : index < (ofText text).length) {i : Nat}
    (own : i < (ofText insertion).length) :
    (ofText (replace text index insertion))[index + i]? = (ofText insertion)[i]? := by
  have length : ((ofText text).take index).length = index := by simp; omega
  rw [ofText_replace inside, List.append_assoc, List.getElem?_append_right (by omega), length,
    Nat.add_sub_cancel_left, List.getElem?_append_left own]

/-- The text with the characters of one line from one place up to another replaced. -/
def replaceWithin (text : Text) (index first last : Nat) (insertion : Text) : Text :=
  replace text index ((get (ofText text) index).take first ++ insertion ++
    (get (ofText text) index).drop last)

/-- What is inserted without a line break stands on the line that it is inserted into. -/
theorem getElem?_replaceWithin (inside : index < (ofText text).length) (first last : Nat)
    (single : '\n' ∉ insertion) :
    (ofText (replaceWithin text index first last insertion))[index]? =
      some ((get (ofText text) index).take first ++ insertion ++
        (get (ofText text) index).drop last) := by
  have own : '\n' ∉ get (ofText text) index :=
    Text.not_mem_of_mem_splitOn (List.mem_of_getElem? (getElem?_eq_get inside))
  have unbroken : '\n' ∉ (get (ofText text) index).take first ++ insertion ++
      (get (ofText text) index).drop last := by
    simp only [List.mem_append, not_or]
    exact ⟨⟨fun member => own (List.mem_of_mem_take member), single⟩,
      fun member => own (List.mem_of_mem_drop member)⟩
  unfold replaceWithin
  generalize (get (ofText text) index).take first ++ insertion ++
    (get (ofText text) index).drop last = line at unbroken ⊢
  have alone : ofText line = [line] := Text.splitOn_of_not_mem unbroken
  have held : (ofText (replace text index line))[index + 0]? = (ofText line)[0]? :=
    getElem?_replace_add inside (by rw [alone]; exact Nat.one_pos)
  rw [alone] at held
  exact held

end Lines
end GraphCompletion
