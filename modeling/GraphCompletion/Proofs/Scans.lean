import GraphCompletion.Lines
import Mathlib.Data.List.Basic

/-!
# Scans over part of a document

An upward scan reads the lines up to its bound and no others. So documents with the same beginning are
scanned alike there, and in a document that is put inside another one a scan first meets what it meets
in the inner document alone.
-/
namespace GraphCompletion.Lines

variable {lines others : List Text} {index : Int}

theorem upTo_eq_zipIdx_take (lines : List Text) (index : Int) :
    upTo lines index = (lines.take (index + 1).toNat).zipIdx.reverse := by
  have cut (n : Nat) : lines.zipIdx.take n = (lines.take n).zipIdx := by
    apply List.ext_getElem?
    intro i
    by_cases early : i < n
    · simp [List.getElem?_take_of_lt early]
    · simp [List.getElem?_take_eq_none (Nat.le_of_not_lt early)]
  rw [upTo, cut]

/-- A scan reads the lines up to its bound only. -/
theorem upTo_congr {count : Nat} (same : lines.take count = others.take count)
    (bound : index < count) : upTo lines index = upTo others index := by
  have within : min (index + 1).toNat count = (index + 1).toNat := by omega
  rw [upTo_eq_zipIdx_take, upTo_eq_zipIdx_take, ← within, ← List.take_take, ← List.take_take, same]

/-- A scan from a line of the document meets that line first. -/
theorem upTo_eq_cons {i : Nat} (inside : i < lines.length) :
    upTo lines i = (get lines i, i) :: upTo lines (i - 1 : Int) := by
  have above : ((i : Int) - 1 + 1).toNat = i := by omega
  have own : lines.take (i + 1) = lines.take i ++ [get lines i] := by
    rw [List.take_add_one, List.getElem?_eq_getElem inside]
    simp [get, List.getD_eq_getElem?_getD, List.getElem?_eq_getElem inside]
  rw [upTo_eq_zipIdx_take, upTo_eq_zipIdx_take, above, Int.toNat_natCast_add_one, own,
    List.zipIdx_append, List.reverse_append]
  simp [Nat.min_eq_left (Nat.le_of_lt inside)]

/-- Inside another document a scan meets the inner document's lines first, at their places there. -/
theorem upTo_append_append (above inner below : List Text) (bound : index < inner.length) :
    upTo (above ++ inner ++ below) (above.length + index) =
      (upTo inner index).map (fun entry => (entry.1, entry.2 + above.length)) ++
        upTo above (above.length + index) := by
  have own : (above ++ inner ++ below).take (above.length + index + 1).toNat =
      above.take (above.length + index + 1).toNat ++ inner.take (index + 1).toNat := by
    have rest : (above.length + index + 1).toNat - above.length = (index + 1).toNat := by omega
    have short : (index + 1).toNat ≤ inner.length := by omega
    rw [List.append_assoc, List.take_append, rest, List.take_append_of_le_length short]
  simp only [upTo_eq_zipIdx_take, own, List.zipIdx_append, List.reverse_append, List.map_reverse]
  congr 2
  by_cases early : index < 0
  · have none : (index + 1).toNat = 0 := by omega
    simp [none]
  · have whole : (above.take (above.length + index + 1).toNat).length = above.length := by
      rw [List.length_take]
      omega
    rw [whole, List.zipIdx_eq_map_add]
    simp [Nat.add_comm]

end GraphCompletion.Lines
