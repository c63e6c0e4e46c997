import GraphCompletion.Proofs.Governing
import GraphCompletion.Proofs.Scans

/-!
# Scoping by headers

A line stands in the collection of the header that governs it, and outside every collection if none does.
The headers that are passed over are as deep as the line or deeper, what stands below the line does not
count, and a line that is read as deeper is governed by a header at or below the one that governed it
before.
-/
namespace GraphCompletion.Scope

variable {lines others : List Text} {index indent deeper : Int} {scope : Scope} {h i : Nat}
  {line word : Text}

/-- The line is a header with this word so deep: but for white space around them it is the word and a
colon. -/
def IsHeader (line : Text) (depth : Nat) (word : Text) : Prop :=
  word ∈ Section.headers.map Prod.fst ∧ ∃ before between behind, Text.isBlank before = true ∧
    Text.isBlank between = true ∧ Text.isBlank behind = true ∧ before.length = depth ∧
    line = before ++ word ++ between ++ ':' :: behind

/-- A word that heads a collection goes with the section of its canonical name. -/
theorem mem_headers_iff {area : Section} : (word, area) ∈ Section.headers ↔
    word ∈ Section.headers.map Prod.fst ∧ area.word = Section.canonicalName word := by
  simp only [Section.headers, List.map_cons, List.map_nil, List.mem_cons, Prod.mk.injEq,
    List.not_mem_nil, or_false]
  constructor
  · rintro (⟨rfl, rfl⟩ | ⟨rfl, rfl⟩ | ⟨rfl, rfl⟩) <;> decide
  · rintro ⟨rfl | rfl | rfl, named⟩ <;> cases area <;> revert named <;> decide

theorem isHeader_of_ofHeader? (header : ofHeader? line = some scope) :
    ∃ word, IsHeader line scope.indent word ∧ scope.area.word = Section.canonicalName word := by
  obtain ⟨word, rest, tail, member, cut, colon, blank, depth⟩ := ofHeader?_eq_some header
  obtain ⟨known, named⟩ := mem_headers_iff.1 member
  refine ⟨word, ⟨known, line.takeWhile Text.isBlankChar, rest.takeWhile Text.isBlankChar, tail,
    Text.all_takeWhile _ _, Text.all_takeWhile _ _, blank, depth.symm, ?_⟩, named⟩
  calc line
      = line.takeWhile Text.isBlankChar ++ Text.stripLeft line :=
        List.takeWhile_append_dropWhile.symm
    _ = line.takeWhile Text.isBlankChar ++ (word ++ (rest.takeWhile Text.isBlankChar ++
          Text.stripLeft rest)) := by rw [cut, Text.stripLeft, List.takeWhile_append_dropWhile]
    _ = _ := by simp [colon]

theorem ofHeader?_eq_some_iff : ofHeader? line = some scope ↔
    ∃ word, IsHeader line scope.indent word ∧ scope.area.word = Section.canonicalName word := by
  refine ⟨isHeader_of_ofHeader?, ?_⟩
  rintro ⟨word, ⟨known, before, between, behind, blank, gap, rest, depth, rfl⟩, named⟩
  obtain ⟨area, depth'⟩ := scope
  simp only at depth named
  subst depth
  rw [List.append_assoc]
  exact ofHeader?_of_spelled blank gap rest (mem_headers_iff.2 ⟨known, named⟩)

theorem headerAt_iff : HeaderAt lines scope i ↔ ∃ line word, lines[i]? = some line ∧
    IsHeader line scope.indent word ∧ scope.area.word = Section.canonicalName word := by
  simp only [HeaderAt, ofHeader?_eq_some_iff, exists_and_left]

/-- The header line that governs the line at `index` for an indentation, with its scope; without one, the
root. -/
inductive Governed (lines : List Text) (index indent : Int) : Option Nat → Scope → Prop
  | header {h : Nat} {scope : Scope} (governs : Governs lines index indent h scope) :
      Governed lines index indent (some h) scope
  | root (missed : ∀ i : Nat, (i : Int) ≤ index → ¬ Reaches lines index indent i) :
      Governed lines index indent none root

theorem governingLine?_eq_none_iff : governingLine? lines index indent = none ↔
    ∀ i : Nat, (i : Int) ≤ index → ¬ Reaches lines index indent i := by
  rw [Option.eq_none_iff_forall_not_mem]
  constructor
  · intro missed i bound reaches
    obtain ⟨h, _, nearest⟩ := Lines.Nearest.exists_of_holds bound reaches
    obtain ⟨scope, header, _⟩ := nearest.holds
    exact missed h (governingLine?_eq_some_iff.2 ⟨scope, header, nearest⟩)
  · intro missed h found
    obtain ⟨scope, governs⟩ := governingLine?_eq_some_iff.1 found
    exact missed h governs.nearest.reached governs.nearest.holds

theorem governing_of_governingLine?_eq_none (none : governingLine? lines index indent = none) :
    governing lines index indent = root := by
  unfold governing
  rw [Lines.findSome?_upTo_eq_bind, Option.map_eq_none_iff.1 none]
  rfl

/-- The scan gives the governing header and its scope, and nothing else governs the line. -/
theorem governed_iff {found : Option Nat} : Governed lines index indent found scope ↔
    found = governingLine? lines index indent ∧ scope = governing lines index indent := by
  constructor
  · rintro (governs | missed)
    · exact ⟨(governingLine?_eq_some_iff.2 ⟨scope, governs⟩).symm, governs.governing_eq.symm⟩
    · have none := governingLine?_eq_none_iff.2 missed
      exact ⟨none.symm, (governing_of_governingLine?_eq_none none).symm⟩
  · rintro ⟨rfl, rfl⟩
    cases outcome : governingLine? lines index indent with
    | none =>
      rw [governing_of_governingLine?_eq_none outcome]
      exact .root (governingLine?_eq_none_iff.1 outcome)
    | some h =>
      obtain ⟨scope, governs⟩ := governingLine?_eq_some_iff.1 outcome
      rw [governs.governing_eq]
      exact .header governs

/-- A header that is passed over on the way up does not reach the line. -/
theorem Governs.indent_le (governs : Governs lines index indent h scope) {other : Scope} (below : h < i)
    (above : (i : Int) < index) (header : HeaderAt lines other i) : indent ≤ other.indent := by
  by_contra less
  exact governs.nearest.passed i below (Int.le_of_lt above) ⟨other, header, .inl (by omega)⟩

/-- A header that reaches a line also reaches it where the line is read as deeper. -/
theorem Reaches.mono (reaches : Reaches lines index indent i) (le : indent ≤ deeper) :
    Reaches lines index deeper i := by
  obtain ⟨scope, header, less | own⟩ := reaches
  · exact ⟨scope, header, .inl (Int.lt_of_lt_of_le less le)⟩
  · exact ⟨scope, header, .inr own⟩

theorem governingLine?_mono (le : indent ≤ deeper) :
    governingLine? lines index indent ≤ governingLine? lines index deeper := by
  cases outcome : governingLine? lines index indent with
  | none => exact Option.none_le
  | some h =>
    obtain ⟨scope, governs⟩ := governingLine?_eq_some_iff.1 outcome
    obtain ⟨lower, below, nearest⟩ := Lines.Nearest.exists_of_holds governs.nearest.reached
      (governs.nearest.holds.mono le)
    obtain ⟨_, header, _⟩ := nearest.holds
    rw [governingLine?_eq_some_iff.2 ⟨_, header, nearest⟩]
    exact Option.some_le_some.2 below

/-- A line is scoped by the nearest header at or above it that is less deep than the line is read, or its
own: the scan gives the section of that header's canonical name and its indentation, and the root if there
is none. Headers in between are as deep or deeper, lines below do not count, and for a deeper reading the
header stands at or below the one found before, any header being below none. -/
theorem governed_by_nearest_header (lines : List Text) (index indent : Int) :
    (∀ i scope, HeaderAt lines scope i ↔ ∃ line word, lines[i]? = some line ∧
      IsHeader line scope.indent word ∧ scope.area.word = Section.canonicalName word) ∧
    (∀ found scope, Governed lines index indent found scope ↔
      found = governingLine? lines index indent ∧ scope = governing lines index indent) ∧
    (∀ h scope, Governs lines index indent h scope → ∀ i other, h < i → (i : Int) < index →
      HeaderAt lines other i → indent ≤ other.indent) ∧
    (∀ others : List Text, others.take (index + 1).toNat = lines.take (index + 1).toNat →
      governing others index indent = governing lines index indent) ∧
    ∀ deeper, indent ≤ deeper →
      governingLine? lines index indent ≤ governingLine? lines index deeper := by
  refine ⟨fun _ _ => headerAt_iff, fun _ _ => governed_iff, ?_, ?_, fun _ => governingLine?_mono⟩
  · intro h scope governs i other below above header
    exact governs.indent_le below above header
  · intro others same
    unfold governing
    rw [Lines.upTo_congr same (by omega)]

/-- A line further out skips the headers that are deeper. -/
example :
    let lines : List Text := ["nodes:", "  - name: a", "    edges :", "      - from: a", "  "]
    governing lines 4 6 = ⟨.links, 4⟩ ∧ governing lines 4 2 = ⟨.nodes, 0⟩ ∧
      governing lines 4 0 = root := by
  decide

end GraphCompletion.Scope
