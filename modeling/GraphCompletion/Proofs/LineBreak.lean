import GraphCompletion.Proofs.ItemInsertion

/-!
# Breaking a line

A text with a line break in it, put into a line, leaves two lines: what stands left of it goes on with
the text's first part, and the second part stands before what was right of it. Here the new lower line
is tied to the header that governs it. For the scan from there the broken line itself counts only if it
has become a header, so the lower line is governed as the broken one would have been at its indentation.
-/
namespace GraphCompletion

namespace Lines

variable {text upper lower : Text} {index : Nat}

/-- A text with one line break, put in place of a part of a line, breaks the line in two. -/
theorem getElem?_replaceWithin_break (inside : index < (ofText text).length) (first last : Nat)
    (single : '\n' ∉ upper) (single' : '\n' ∉ lower) :
    let line := get (ofText text) index
    let after := ofText (replaceWithin text index first last (upper ++ '\n' :: lower))
    after[index]? = some (line.take first ++ upper) ∧
      after[index + 1]? = some (lower ++ line.drop last) := by
  intro line after
  have own : '\n' ∉ line :=
    Text.not_mem_of_mem_splitOn (List.mem_of_getElem? (getElem?_eq_get inside))
  have left : '\n' ∉ line.take first ++ upper := by
    rw [List.mem_append, not_or]
    exact ⟨fun member => own (List.mem_of_mem_take member), single⟩
  have right : '\n' ∉ lower ++ line.drop last := by
    rw [List.mem_append, not_or]
    exact ⟨single', fun member => own (List.mem_of_mem_drop member)⟩
  have pieces : ofText (line.take first ++ (upper ++ '\n' :: lower) ++ line.drop last) =
      [line.take first ++ upper, lower ++ line.drop last] := by
    have apart : line.take first ++ (upper ++ '\n' :: lower) ++ line.drop last =
        line.take first ++ upper ++ '\n' :: (lower ++ line.drop last) := by simp
    rw [apart, ofText, Text.splitOn_append_cons, Text.splitOn_of_not_mem left,
      Text.splitOn_of_not_mem right, List.singleton_append]
  have held (i : Nat) (below : i < 2) :
      after[index + i]? = [line.take first ++ upper, lower ++ line.drop last][i]? := by
    rw [← pieces]
    exact getElem?_replace_add inside (by rw [pieces]; exact below)
  exact ⟨held 0 (by decide), held 1 (by decide)⟩

end Lines

namespace Line

variable {line : Text}

theorem isBlank_eq_false_of_isDash (dash : isDash line = true) : isBlank line = false := by
  by_contra blank
  have nothing : Text.stripLeft line = [] :=
    (Text.stripLeft_eq_nil_iff line).2 (by simpa [isBlank] using blank)
  rw [isDash, Text.head?_strip, nothing] at dash
  cases dash

/-- What follows content on a line does not change its indentation. -/
theorem indent_append (solid : isBlank line = false) (rest : Text) :
    indent (line ++ rest) = indent line :=
  Text.leadingBlanks_append solid rest

/-- What follows content on a line does not change whether it opens an item. -/
theorem isDash_append (solid : isBlank line = false) (rest : Text) :
    isDash (line ++ rest) = isDash line := by
  have filled : Text.stripLeft line ≠ [] := by
    rw [Ne, Text.stripLeft_eq_nil_iff]
    simpa [isBlank] using solid
  rw [isDash, isDash, Text.head?_strip, Text.head?_strip, Text.stripLeft_append solid,
    List.head?_append_of_ne_nil _ filled]

end Line

namespace Scope

variable {lines after : List Text} {index h : Nat} {indent : Int} {scope : Scope}

/-- Below its governing header no line of a collection is a header itself. -/
theorem Governs.plain (governs : Governs lines index indent h scope) (below : h < index) :
    ∀ other, ¬ HeaderAt lines other index := by
  intro other header
  exact governs.nearest.passed index below (Int.le_refl _) ⟨other, header, .inr rfl⟩

/-- The line below a broken line is governed as the line was before it was broken, for the same
indentation, unless the upper part has become a header that is indented less. -/
theorem governs_below_iff (above : ∀ i, i < index → after[i]? = lines[i]?)
    (plain : ∀ other, ¬ HeaderAt lines other index)
    (shallow : ∀ other, HeaderAt after other index → indent ≤ other.indent)
    (lower : ∀ other, ¬ HeaderAt after other (index + 1)) :
    Governs after (index + 1 : Nat) indent h scope ↔ Governs lines index indent h scope := by
  have header {i : Nat} (bound : i < index) (other : Scope) :
      HeaderAt after other i ↔ HeaderAt lines other i := by
    unfold HeaderAt
    rw [above i bound]
  have reaches (i : Nat) (bound : (i : Int) ≤ index) :
      Reaches after (index + 1 : Nat) indent i ↔ Reaches lines index indent i := by
    unfold Reaches
    rcases Nat.lt_or_eq_of_le (Int.ofNat_le.1 bound) with less | rfl
    · have own : ((i : Int) = (index + 1 : Nat)) ↔ ((i : Int) = index) := by omega
      simp only [header less, own]
    · constructor
      · rintro ⟨other, found, reached⟩
        have deep := shallow other found
        omega
      · rintro ⟨other, found, _⟩
        exact absurd found (plain other)
  have lacks : ¬ Reaches after (index + 1 : Nat) indent (index + 1) := by
    rintro ⟨other, found, _⟩
    exact lower other found
  have nearest : Lines.Nearest (index + 1 : Nat) (Reaches after (index + 1 : Nat) indent) h ↔
      Lines.Nearest index (Reaches lines index indent) h := by
    rw [Lines.Nearest.succ_iff lacks]
    constructor
    · intro found
      exact found.congr fun i _ bound => reaches i bound
    · intro found
      exact found.congr fun i _ bound => (reaches i bound).symm
  have strict (found : Lines.Nearest index (Reaches lines index indent) h) : h < index := by
    have reached := found.reached
    by_contra other
    obtain rfl : h = index := by omega
    obtain ⟨own, there, _⟩ := found.holds
    exact plain own there
  constructor
  · intro governs
    have found := nearest.1 governs.nearest
    exact ⟨(header (strict found) scope).1 governs.header, found⟩
  · intro governs
    have found := governs.nearest
    exact ⟨(header (strict found) scope).2 governs.header, nearest.2 found⟩

/-- The line below a broken line has the header that would have governed the line before it was broken,
had that been indented alike. -/
theorem governsLine_below_iff {lower : Text} (above : ∀ i, i < index → after[i]? = lines[i]?)
    (plain : ∀ other, ¬ HeaderAt lines other index) (second : after[index + 1]? = some lower)
    (plain' : ofHeader? lower = none)
    (shallow : ∀ other, HeaderAt after other index → Line.indent lower ≤ other.indent) :
    GovernsLine after (index + 1) h scope ↔ Governs lines index (Line.indent lower) h scope := by
  have noHeader : ∀ other, ¬ HeaderAt after other (index + 1) := by
    intro other found
    obtain ⟨line, held, header⟩ := found
    rw [second, Option.some.injEq] at held
    rw [← held, plain'] at header
    cases header
  have deep : ∀ other, HeaderAt after other index → (Line.indent lower : Int) ≤ other.indent := by
    intro other found
    exact_mod_cast shallow other found
  unfold GovernsLine
  rw [Lines.get_eq_of_getElem? second]
  exact governs_below_iff above plain deep noHeader

/-- The line below a broken line stands under the same header, if it is indented further than that header
and no header in between is indented less. -/
theorem GovernsLine.below {upper lower : Text} (governs : GovernsLine lines index h scope)
    (strict : h < index) (above : ∀ i, i < index → after[i]? = lines[i]?)
    (first : after[index]? = some upper) (second : after[index + 1]? = some lower)
    (plain : ofHeader? upper = none) (plain' : ofHeader? lower = none)
    (deeper : scope.indent < Line.indent lower)
    (kept : ∀ i other, h < i → i < index → HeaderAt lines other i →
      Line.indent lower ≤ other.indent) :
    GovernsLine after (index + 1) h scope := by
  have own := Governs.plain governs strict
  have moved : Governs lines index (Line.indent lower) h scope := by
    apply governs.rescan strict (fun _ _ => rfl) own (by omega)
    intro i other later bound header
    exact_mod_cast kept i other later bound header
  apply (governsLine_below_iff above own second plain' ?_).2 moved
  intro other found
  obtain ⟨line, held, header⟩ := found
  rw [first, Option.some.injEq] at held
  rw [← held, plain] at header
  cases header

/-- A line below its governing header is no header itself. -/
theorem GovernsLine.ofHeader?_eq_none {line : Text} (governs : GovernsLine lines index h scope)
    (strict : h < index) (held : lines[index]? = some line) : ofHeader? line = none := by
  rw [Option.eq_none_iff_forall_ne_some]
  intro other header
  exact Governs.plain governs strict other ⟨line, held, header⟩

end Scope
end GraphCompletion
