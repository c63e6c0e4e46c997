import GraphCompletion.Item
import GraphCompletion.Proofs.Governing

/-!
# The scan for an item

The scan for the dash line of an item knows a section only by its kind. Here it is tied to that
reading: it finds the nearest dash line whose governing header opens a collection of that kind,
whichever collection that is.
-/
namespace GraphCompletion.Item

variable {lines : List Text} {index : Int} {area : Section} {scope : Scope} {h i : Nat}

/-- A dash line stands at the index. -/
def DashAt (lines : List Text) (i : Nat) : Prop :=
  ∃ line, lines[i]? = some line ∧ Line.isDash line = true

instance (lines : List Text) (i : Nat) : Decidable (DashAt lines i) :=
  match held : lines[i]? with
  | none => isFalse fun ⟨_, present, _⟩ => by simp [held] at present
  | some line => decidable_of_iff (Line.isDash line = true) (by simp [DashAt, held])

/-- A dash line that the header line `h` governs. -/
def DashUnder (lines : List Text) (h i : Nat) : Prop :=
  DashAt lines i ∧ ∃ scope, Scope.GovernsLine lines i h scope

/-- A dash line that stands in a section of this kind. -/
def DashIn (lines : List Text) (area : Section) (i : Nat) : Prop :=
  ∃ line, lines[i]? = some line ∧ Line.isDash line = true ∧ (Scope.ofLine lines i line).area = area

/-- A governed dash line stands in the section of its header. -/
theorem dashIn_of_governs (dash : DashAt lines i) (governs : Scope.GovernsLine lines i h scope) :
    DashIn lines scope.area i := by
  obtain ⟨line, held, opens⟩ := dash
  refine ⟨line, held, opens, ?_⟩
  unfold Scope.GovernsLine at governs
  rw [Lines.get_eq_of_getElem? held] at governs
  unfold Scope.ofLine
  rw [governs.governing_eq]

/-- The scan gives the nearest dash line in a section of its kind. -/
theorem start?_eq_some_iff (collection : area.isCollection = true) :
    start? lines index area = some i ↔ Lines.Nearest index (DashIn lines area) i := by
  unfold start?
  rw [if_pos collection]
  refine Lines.map_find?_upTo_eq_some_iff fun j => ?_
  simp only [DashIn, Bool.and_eq_true, beq_iff_eq]

end GraphCompletion.Item
