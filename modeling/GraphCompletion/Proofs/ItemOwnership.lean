import GraphCompletion.Proofs.Caret
import GraphCompletion.Proofs.ItemScan

/-!
# Whose item the context is

The caret's item is meant to be one of the caret's own collection, the one that the governing header
line opens. The scan for an item knows that collection only by its kind, so a dash line of another
collection of the kind can stand in its way. Here both readings are compared: they give the same item
exactly where no dash line intrudes.
-/
namespace GraphCompletion

namespace Item

variable {lines : List Text} {index indentSize : Int} {area : Section} {scope : Scope} {h i : Nat}

/-- The index of the nearest dash line at or above `index` that the header line `h` governs. -/
def startUnder? (lines : List Text) (index : Int) (h : Nat) : Option Nat :=
  ((Lines.upTo lines index).find? fun (line, i) =>
    Line.isDash line && Scope.governingLine? lines i (Line.indent line) == some h).map (·.2)

/-- A dash line in a section of the kind, with no dash line under the header line `h` from it on. -/
def Intruded (lines : List Text) (index : Int) (h : Nat) (area : Section) : Prop :=
  ∃ i : Nat, (i : Int) ≤ index ∧ DashIn lines area i ∧
    ∀ j, i ≤ j → (j : Int) ≤ index → ¬ DashUnder lines h j

/-- The item at a dash line has no keys up to `index`, and nothing but the dash stands there. -/
def IsEmpty (lines : List Text) (start : Nat) (area : Section) (index indentSize : Int) : Prop :=
  keys lines start area index indentSize = [] ∧ Line.isLoneDash (Lines.get lines start) = true

instance (lines : List Text) (start : Nat) (area : Section) (index indentSize : Int) :
    Decidable (IsEmpty lines start area index indentSize) := instDecidableAnd

/-- The dash lines that a context is read from, found by a scan: that of the item around a line, and
that of the item before it if it is empty. -/
def consulted (lines : List Text) (scan : Int → Option Nat) (index : Int) (area : Section)
    (indentSize : Int) : List Nat :=
  match scan index with
  | none => []
  | some start =>
    start :: if IsEmpty lines start area index indentSize then (scan (start - 1)).toList else []

theorem consulted_of_none {scan : Int → Option Nat} (missed : scan index = none) :
    consulted lines scan index area indentSize = [] := by
  unfold consulted
  rw [missed]

theorem consulted_of_some {scan : Int → Option Nat} {start : Nat} (found : scan index = some start) :
    consulted lines scan index area indentSize =
      start :: if IsEmpty lines start area index indentSize then (scan (start - 1)).toList else [] := by
  unfold consulted
  rw [found]

theorem head?_consulted (scan : Int → Option Nat) :
    (consulted lines scan index area indentSize).head? = scan index := by
  cases found : scan index with
  | none => rw [consulted_of_none found, List.head?_nil]
  | some start => rw [consulted_of_some found, List.head?_cons]

/-- The context that is read from the dash lines consulted. -/
def contextOf (lines : List Text) (index : Int) (area : Section) (indentSize : Int) :
    List Nat → ItemContext
  | [] => {}
  | [start] =>
    let own := keys lines start area index indentSize
    if own.isEmpty then {} else ⟨own, true⟩
  | start :: previous :: _ => ⟨keys lines previous area (start - 1 : Int) indentSize, true⟩

/-- The context comes from the dash lines that the scan by kind finds. -/
theorem context_eq_contextOf (lines : List Text) (index : Int) (area : Section) (indentSize : Int) :
    context lines index area indentSize =
      contextOf lines index area indentSize
        (consulted lines (fun bound => start? lines bound area) index area indentSize) := by
  unfold context
  cases found : start? lines index area with
  | none => rw [consulted_of_none found, contextOf]
  | some start =>
    rw [consulted_of_some found]
    by_cases own : keys lines start area index indentSize = []
    · by_cases lone : Line.isLoneDash (Lines.get lines start) = true
      · cases before : start? lines (start - 1 : Int) area <;>
          simp [IsEmpty, own, lone, before, contextOf]
      · simp [IsEmpty, own, lone, contextOf]
    · simp [IsEmpty, own, contextOf]

theorem startUnder?_eq_some_iff :
    startUnder? lines index h = some i ↔ Lines.Nearest index (DashUnder lines h) i := by
  refine Lines.map_find?_upTo_eq_some_iff fun j => ?_
  simp only [DashUnder, DashAt, Scope.GovernsLine, Bool.and_eq_true, beq_iff_eq,
    Scope.governingLine?_eq_some_iff]
  constructor
  · rintro ⟨⟨line, held, dash⟩, governs⟩
    rw [Lines.get_eq_of_getElem? held] at governs
    exact ⟨line, held, dash, governs⟩
  · rintro ⟨line, held, dash, governs⟩
    rw [Lines.get_eq_of_getElem? held]
    exact ⟨⟨line, held, dash⟩, governs⟩

/-- A dash line under a header stands in a section of that header's kind. -/
theorem DashUnder.dashIn (under : DashUnder lines h i) (header : Scope.HeaderAt lines scope h) :
    DashIn lines scope.area i := by
  obtain ⟨dash, other, governs⟩ := under
  obtain rfl := governs.header.unique header
  exact dashIn_of_governs dash governs

/-- Both scans find the same dash line exactly where none intrudes. -/
theorem start?_eq_startUnder?_iff (header : Scope.HeaderAt lines scope h)
    (collection : scope.area.isCollection = true) (index : Int) :
    start? lines index scope.area = startUnder? lines index h ↔
      ¬ Intruded lines index h scope.area := by
  constructor
  · rintro same ⟨i, bound, inside, foreign⟩
    obtain ⟨j, later, nearest⟩ := Lines.Nearest.exists_of_holds bound inside
    have found := (start?_eq_some_iff collection).2 nearest
    rw [same] at found
    exact foreign j later nearest.reached (startUnder?_eq_some_iff.1 found).holds
  · intro clear
    refine Option.ext fun i => ?_
    rw [start?_eq_some_iff collection, startUnder?_eq_some_iff]
    constructor
    · intro nearest
      have own : DashUnder lines h i := by
        by_contra foreign
        refine clear ⟨i, nearest.reached, nearest.holds, fun j later bound under => ?_⟩
        rcases Nat.eq_or_lt_of_le later with same | below
        · exact foreign (same ▸ under)
        · exact nearest.passed j below bound (under.dashIn header)
      exact ⟨nearest.reached, own, fun j below bound under =>
        nearest.passed j below bound (under.dashIn header)⟩
    · intro nearest
      refine ⟨nearest.reached, nearest.holds.dashIn header, fun j below bound inside => ?_⟩
      refine clear ⟨j, bound, inside, fun k later reached under => ?_⟩
      exact nearest.passed k (by omega) reached under

/-- No dash line of another collection stands in the way of the scans that an item's context takes. -/
structure Undisturbed (lines : List Text) (index : Int) (h : Nat) (area : Section)
    (indentSize : Int) : Prop where
  own : ¬ Intruded lines index h area
  previous : ∀ start, startUnder? lines index h = some start →
    IsEmpty lines start area index indentSize → ¬ Intruded lines (start - 1 : Int) h area

/-- The context is read from the dash lines under the header exactly where none intrudes. -/
theorem consulted_eq_iff (header : Scope.HeaderAt lines scope h)
    (collection : scope.area.isCollection = true) (index indentSize : Int) :
    consulted lines (fun bound => start? lines bound scope.area) index scope.area indentSize =
        consulted lines (fun bound => startUnder? lines bound h) index scope.area indentSize ↔
      Undisturbed lines index h scope.area indentSize := by
  have same := start?_eq_startUnder?_iff header collection
  constructor
  · intro alike
    have first : start? lines index scope.area = startUnder? lines index h := by
      rw [← head?_consulted (fun bound => start? lines bound scope.area), alike, head?_consulted]
    refine ⟨(same index).1 first, fun start found empty => (same _).1 ?_⟩
    rw [consulted_of_some (first.trans found), consulted_of_some found, if_pos empty, if_pos empty,
      List.cons.injEq] at alike
    simpa using congrArg List.head? alike.2
  · intro clear
    have first := (same index).2 clear.own
    cases found : startUnder? lines index h with
    | none => rw [consulted_of_none (first.trans found), consulted_of_none found]
    | some start =>
      rw [consulted_of_some (first.trans found), consulted_of_some found]
      by_cases empty : IsEmpty lines start scope.area index indentSize
      · rw [if_pos empty, if_pos empty, (same _).2 (clear.previous start found empty)]
      · rw [if_neg empty, if_neg empty]

end Item

namespace Completion

/-- The item context is that of the caret's own collection where no dash line of another one
intrudes: the dash lines it is read from are those under the governing header exactly then. -/
theorem item_of_undisturbed {text : Text} {lineNumber column indentSize : Int}
    (asked : (EditingContext.resolve text lineNumber column indentSize).kind = .itemKey)
    (entities : Entities) (document : Yaml.Document) :
    let area := (EditingContext.resolve text lineNumber column indentSize).area
    let lines := Lines.ofText text
    let index := Lines.caretIndex lines lineNumber
    let metadata := Metadata.ofDocument text entities document
    ∃ h scope, Scope.GovernsLine lines index h scope ∧ scope.area = area ∧
      let claimed := Item.consulted lines (fun bound => Item.startUnder? lines bound h) index area
        indentSize
      (Item.consulted lines (fun bound => Item.start? lines bound area) index area indentSize =
        claimed ↔ Item.Undisturbed lines index h area indentSize) ∧
      (Item.Undisturbed lines index h area indentSize →
        (atCaret text lineNumber column metadata indentSize).item =
          Item.contextOf lines index area indentSize claimed) := by
  intro area lines index metadata
  have inside : area ≠ .root := EditingContext.area_resolve_ne_root (.inl asked)
  obtain ⟨h, scope, governs, sameArea⟩ := EditingContext.exists_governsLine inside
  have exact_when := Item.consulted_eq_iff governs.header governs.isCollection index indentSize
  rw [sameArea] at exact_when
  refine ⟨h, scope, governs, sameArea, exact_when, fun clear => ?_⟩
  rw [item_atCaret asked, Item.context_eq_contextOf]
  exact congrArg _ (exact_when.2 clear)

/-- A lone dash below nested links has the keys of the node before it. -/
theorem item_of_lone_dash_below_links :
    let text := "nodes:\n  - name: a\n    links:\n      - from: x\n  -".toList
    let lines := Lines.ofText text
    (EditingContext.resolve text 5 4 2).kind = .itemKey ∧
      Item.Undisturbed lines 4 0 .nodes 2 ∧
      (atCaret text 5 4 (.ofDocument text {} .null) 2).item = ⟨["name", "links"], true⟩ := by
  intro text lines
  have asked : (EditingContext.resolve text 5 4 2).kind = .itemKey := by decide
  have caret : Lines.caretIndex (Lines.ofText text) 5 = 4 := by decide
  have area : (EditingContext.resolve text 5 4 2).area = .nodes := by decide
  have header : ∃ scope, Scope.GovernsLine lines 4 0 scope :=
    Scope.governingLine?_eq_some_iff.1 (by decide)
  obtain ⟨h, scope, governs, _, exactly, item⟩ := item_of_undisturbed asked {} .null
  rw [caret] at governs exactly item
  rw [area] at exactly item
  obtain ⟨_, own⟩ := header
  obtain ⟨rfl, _⟩ := own.unique governs
  have clear : Item.Undisturbed lines 4 0 .nodes 2 := exactly.1 (by decide)
  refine ⟨asked, clear, ?_⟩
  rw [item clear]
  decide

/-- The keys of the inner item are given for an item of the outer collection. -/
theorem item_of_intruding_inner_item :
    let text := "nodes:\n  - name: a\n    nodes:\n      - name: b\n        type: t\n  ".toList
    let lines := Lines.ofText text
    (EditingContext.resolve text 6 3 2).kind = .itemKey ∧
      Scope.ofHeader? (Lines.get lines 5) = none ∧
      (∃ scope, Scope.GovernsLine lines 5 0 scope) ∧
      (atCaret text 6 3 (.ofDocument text {} .null) 2).item = ⟨["name", "type"], true⟩ ∧
      Item.contextOf lines 5 .nodes 2
        (Item.consulted lines (fun bound => Item.startUnder? lines bound 0) 5 .nodes 2) =
          ⟨["name", "nodes"], true⟩ := by
  refine ⟨by decide, by decide, ?_, by decide, by decide⟩
  exact Scope.governingLine?_eq_some_iff.1 (by decide)

end Completion
end GraphCompletion
