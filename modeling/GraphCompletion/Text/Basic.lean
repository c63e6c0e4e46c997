/-!
# Texts

A text is the list of its characters, so every length, column and index counts code points.
Splitting keeps every character but the separators, and joining the pieces gives the text back.
-/
namespace GraphCompletion

/-- A text: its characters in order. -/
abbrev Text := List Char

instance : Coe String Text := ⟨String.toList⟩

namespace Text

/-- As many spaces as `n` says, none when `n` is not positive. -/
def spaces (n : Int) : Text := List.replicate n.toNat ' '

/-- The pieces between separators, one more than there are separators. -/
def splitOn (separator : Char) : Text → List Text
  | [] => [[]]
  | c :: rest =>
    if c = separator then [] :: splitOn separator rest
    else match splitOn separator rest with
      | [] => [[c]]
      | piece :: pieces => (c :: piece) :: pieces

/-- What stands before the first separator, and what stands after it if there is one. -/
def cutAt (separator : Char) (t : Text) : Text × Option Text :=
  (t.takeWhile (· != separator), (t.dropWhile (· != separator)).tail?)

/-- The text without one given last character, if it ends in that. -/
def withoutLast (last : Char) (t : Text) : Text :=
  if t.getLast? = some last then t.dropLast else t

/-- Joins pieces with a separator between them. -/
def join (separator : Text) (pieces : List Text) : Text := separator.intercalate pieces

theorem splitOn_ne_nil (separator : Char) (t : Text) : splitOn separator t ≠ [] := by
  induction t with
  | nil => simp [splitOn]
  | cons c rest _ =>
    rw [splitOn]
    split
    · simp
    · split <;> simp

/-- No piece holds the separator. -/
theorem not_mem_of_mem_splitOn {separator : Char} {t piece : Text}
    (member : piece ∈ splitOn separator t) : separator ∉ piece := by
  induction t generalizing piece with
  | nil => simp_all [splitOn]
  | cons c rest ih =>
    rw [splitOn] at member
    split at member
    · rcases List.mem_cons.1 member with rfl | member
      · simp
      · exact ih member
    · next different =>
      split at member
      · next empty => exact absurd empty (splitOn_ne_nil separator rest)
      · next first others found =>
        rcases List.mem_cons.1 member with rfl | member
        · have inner : separator ∉ first := ih (by simp [found])
          simp only [List.mem_cons, not_or]
          exact ⟨fun same => different same.symm, inner⟩
        · exact ih (by simp [found, member])

end Text
end GraphCompletion
