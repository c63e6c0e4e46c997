import GraphCompletion.Proofs.NextLine

/-!
# The columns of keys

The keys of one item make a mapping only if they begin in one column. The first of them stands behind the
item's dash, the others behind white space, and the column of these is counted in levels of indentation.
So the two agree as far as a dash and the white space behind it are as wide as a level.
-/
namespace GraphCompletion

variable {line key rest : Text} {column : Nat}

namespace Line

/-- A key with a colon begins in a column of the line, counted from zero: left of it stands white space
only, or the dash of an item with white space around it. -/
def KeyAt (line key : Text) (column : Nat) : Prop :=
  ∃ left right, line = left ++ key ++ ':' :: right ∧ left.length = column ∧
    Text.afterDash (Text.stripLeft left) = []

/-- How far the dash of an item and the white space behind it reach, nothing on any other line. -/
def dashWidth (line : Text) : Nat :=
  (Text.stripLeft line).length - (Text.afterDash (Text.stripLeft line)).length

/-- What stands left of a key holds no colon. -/
theorem colon_not_mem_left {left : Text} (nothing : Text.afterDash (Text.stripLeft left) = []) :
    ':' ∉ left := by
  have free {t : Text} (blank : Text.isBlank t = true) : ':' ∉ t := by
    intro member
    exact absurd (List.all_eq_true.1 blank ':' member) (by decide)
  have parts : left = left.takeWhile Text.isBlankChar ++ Text.stripLeft left :=
    List.takeWhile_append_dropWhile.symm
  rw [parts, List.mem_append, not_or]
  refine ⟨free (Text.all_takeWhile Text.isBlankChar left), ?_⟩
  unfold Text.afterDash at nothing
  split at nothing
  next behind cut =>
    rw [cut, List.mem_cons, not_or]
    exact ⟨by decide, free ((Text.stripLeft_eq_nil_iff behind).1 nothing)⟩
  next =>
    rw [nothing]
    exact List.not_mem_nil

/-- A key begins in one column only. -/
theorem KeyAt.unique {other : Nat} (first : KeyAt line key column) (second : KeyAt line key other) :
    column = other := by
  obtain ⟨left, right, rfl, rfl, plain⟩ := first
  obtain ⟨left', right', same, rfl, plain'⟩ := second
  -- The line's first colon stands as far behind the column as the first one of the key and its colon.
  have reach (left right : Text) (plain : Text.afterDash (Text.stripLeft left) = []) :
      (left ++ key ++ ':' :: right).idxOf ':' = left.length + (key ++ [':']).idxOf ':' := by
    have parts : left ++ key ++ ':' :: right = left ++ (key ++ [':'] ++ right) := by simp
    have inside : ':' ∈ key ++ [':'] := by simp
    rw [parts, List.idxOf_append_of_notMem (colon_not_mem_left plain),
      List.idxOf_append_of_mem inside, Nat.add_comm]
  have length := reach left right plain
  rw [same, reach left' right' plain'] at length
  omega

/-- The first key of a line begins behind its indentation and its dash. -/
theorem keyAt_of_cut (cut : Text.afterDash (Text.stripLeft line) = key ++ ':' :: rest) :
    KeyAt line key (indent line + dashWidth line) := by
  let blanks := line.takeWhile Text.isBlankChar
  have blank : Text.isBlank blanks = true := Text.all_takeWhile Text.isBlankChar line
  have parts : line = blanks ++ Text.stripLeft line := List.takeWhile_append_dropWhile.symm
  have depth : indent line = blanks.length := rfl
  unfold dashWidth
  by_cases dash : (Text.stripLeft line).head? = some '-'
  · obtain ⟨behind, opens⟩ := List.head?_eq_some_iff.1 dash
    let gap := behind.takeWhile Text.isBlankChar
    have blankGap : Text.isBlank gap = true := Text.all_takeWhile Text.isBlankChar behind
    have apart : behind = gap ++ Text.stripLeft behind := List.takeWhile_append_dropWhile.symm
    have first : Text.afterDash (Text.stripLeft line) = Text.stripLeft behind := by
      rw [opens]
      rfl
    have width : behind.length = gap.length + (Text.stripLeft behind).length := by
      rw [← List.length_append, ← apart]
    refine ⟨blanks ++ '-' :: gap, rest, ?_, ?_, ?_⟩
    · rw [first] at cut
      rw [parts, opens, apart, cut]
      simp
    · rw [first, opens, depth, List.length_append, List.length_cons, List.length_cons]
      omega
    · rw [Text.stripLeft_append_cons blank (by decide)]
      exact (Text.stripLeft_eq_nil_iff gap).2 blankGap
  · have bare : Text.afterDash (Text.stripLeft line) = Text.stripLeft line :=
      Text.afterDash_of_head? dash
    refine ⟨blanks, rest, ?_, ?_, ?_⟩
    · rw [bare] at cut
      rw [List.append_assoc, ← cut]
      exact parts
    · rw [bare, Nat.sub_self, depth, Nat.add_zero]
    · rw [(Text.stripLeft_eq_nil_iff blanks).2 blank]
      rfl

/-- Only the dash of an item has a width. -/
theorem dashWidth_of_not_isDash (bare : isDash line = false) : dashWidth line = 0 := by
  rw [dashWidth, afterDash_stripLeft bare, Nat.sub_self]

theorem keyAt_itemLine (indent : Int) (key : Text) :
    KeyAt (Insertion.itemLine indent key) key (indent.toNat + 2) := by
  refine ⟨Text.spaces indent ++ "- ".toList, [' '], rfl, ?_, ?_⟩
  · rw [List.length_append, Text.length_spaces]
    rfl
  · rw [Text.stripLeft_append_of_isBlank (Text.isBlank_spaces indent)]
    rfl

theorem keyAt_keyLine (indent : Int) (key : Text) :
    KeyAt (Insertion.keyLine indent key) key indent.toNat := by
  refine ⟨Text.spaces indent, [' '], rfl, Text.length_spaces indent, ?_⟩
  rw [(Text.stripLeft_eq_nil_iff _).2 (Text.isBlank_spaces indent)]
  rfl

end Line

/-- The key of an endpoint's value is that of the endpoint. -/
theorem EditingContext.key_of_endpoint {area : Section} {context : EditingContext} {endpoint : Endpoint}
    (found : ofKeyValue? area key = some { context with typed := [] })
    (same : context.endpoint = some endpoint) : key = endpoint.word := by
  rcases ofKeyValue?_cases found with ⟨_, _, other⟩ | ⟨_, _, other⟩ | ⟨named, rfl, _, other⟩
  · simp_all
  · simp_all
  · simp_all

namespace KeyPress

variable {text inserted : Text} {lineNumber column indentSize : Int}

/-- The target's key lines up with the source's above it, exactly if no dash stands before the source or
the dash is as wide as a level of indentation. -/
theorem target_column_eq_iff (positive : 1 ≤ indentSize)
    (planned : planEnter text lineNumber column indentSize = .insert .sourceToTarget inserted) :
    let lines := Lines.ofText text
    let line := Lines.get lines (Lines.caretIndex lines lineNumber)
    ∃ below source target, inserted = '\n' :: below ∧
      Line.KeyAt line Endpoint.source.word source ∧ Line.KeyAt below Endpoint.target.word target ∧
      (target = source ↔ (Line.isDash line = true → Line.dashWidth line = indentSize)) := by
  intro lines line
  obtain ⟨_, rfl, follows⟩ := planEnter_eq_insert planned
  obtain ⟨_, scope, _, _, _, found⟩ := EditingContext.exists_governsLine_of_isValue follows.isValue
  obtain ⟨key, rest, cut, value⟩ := EditingContext.exists_key_of_line found
    (line.drop (Lines.caretOffset lines lineNumber column))
  rw [List.take_append_drop, EditingContext.key_of_endpoint value follows.2.1] at cut
  let depth := EnterEdit.depth line indentSize .sourceToTarget
  refine ⟨_, Line.indent line + Line.dashWidth line, depth.toNat, rfl, Line.keyAt_of_cut cut,
    Line.keyAt_keyLine depth Endpoint.target.word, ?_⟩
  cases dash : Line.isDash line with
  | true =>
    have deeper : depth = Line.indent line + indentSize := if_pos dash
    rw [deeper]
    simp only [forall_const]
    omega
  | false =>
    have level : depth = Line.indent line := if_neg (by simp [dash])
    rw [level, Line.dashWidth_of_not_isDash dash]
    simp

end KeyPress

namespace Insertion

variable {indentSize : Int}

/-- In the context of an item's key, the key that opens an item and a key that continues one are inserted in
one column exactly if a level of indentation is as wide as a dash and a blank. -/
theorem item_columns_eq_iff {context : EditingContext} {opening following : Text} (positive : 1 ≤ indentSize)
    (asked : context.kind = .itemKey) (opens : (Label.ofText opening).opensItem = true)
    (continues : (Label.ofText following).opensItem = false)
    (plain : isCollectionKey (Label.ofText following).key = false) (spec : Spec) (lines : List Text)
    (lineNumber : Int) (currentLine : Text) :
    let inserted (label : Text) := (build context label spec indentSize lines lineNumber currentLine).text
    ∃ first other, Line.KeyAt (inserted opening) (Label.ofText opening).key first ∧
      Line.KeyAt (inserted following) (Label.ofText following).key other ∧
      (first = other ↔ indentSize = 2) := by
  intro inserted
  let place := lineFor lines lineNumber currentLine
  let itemIndent : Int :=
    (Scope.governing place.1 place.2.1 (Line.indent place.2.2)).indent + indentSize
  have first : inserted opening = itemLine itemIndent (Label.ofText opening).key := by
    simp only [inserted, build, asked, itemKeyText, opens, if_true]
    rfl
  have other : inserted following = keyLine (itemIndent + indentSize) (Label.ofText following).key := by
    simp only [inserted, build, asked, itemKeyText, continues, plain, Bool.false_eq_true, if_false]
    rfl
  rw [first, other]
  refine ⟨_, _, Line.keyAt_itemLine .., Line.keyAt_keyLine .., ?_⟩
  omega

end Insertion

namespace Item

/-- The keys of one item line up where a dash with the white space behind it is as wide as a level of
indentation. Enter puts the target's key below the source's unless a dash of another width stands before
the source, and the keys inserted for an item stand in one column exactly if a level is two wide. -/
theorem keys_line_up_iff {indentSize : Int} (positive : 1 ≤ indentSize) :
    (∀ text lineNumber column inserted,
      KeyPress.planEnter text lineNumber column indentSize = .insert .sourceToTarget inserted →
      let lines := Lines.ofText text
      let line := Lines.get lines (Lines.caretIndex lines lineNumber)
      ∃ below source target, inserted = '\n' :: below ∧
        Line.KeyAt line Endpoint.source.word source ∧ Line.KeyAt below Endpoint.target.word target ∧
        (target = source ↔ (Line.isDash line = true → Line.dashWidth line = indentSize))) ∧
    ∀ context : EditingContext, context.kind = .itemKey →
      ∀ opening following, (Label.ofText opening).opensItem = true →
      (Label.ofText following).opensItem = false →
      Insertion.isCollectionKey (Label.ofText following).key = false →
      ∀ spec lines lineNumber currentLine,
      let inserted (label : Text) :=
        (Insertion.build context label spec indentSize lines lineNumber currentLine).text
      ∃ first other, Line.KeyAt (inserted opening) (Label.ofText opening).key first ∧
        Line.KeyAt (inserted following) (Label.ofText following).key other ∧
        (first = other ↔ indentSize = 2) := by
  constructor
  · intro text lineNumber column inserted planned
    exact KeyPress.target_column_eq_iff positive planned
  · intro context asked opening following opens continues plain spec lines lineNumber currentLine
    exact Insertion.item_columns_eq_iff positive asked opens continues plain spec lines lineNumber
      currentLine

/-- With levels of two, a link's target stands below its source, and so do the keys that are offered for a
link on one line. -/
theorem keys_line_up_at_two :
    let text := "links:\n  - from: A".toList
    let blank := "links:\n  ".toList
    let context := EditingContext.resolve blank 2 3 2
    let inserted (label : Text) :=
      (Insertion.build context label .default 2 (Lines.ofText blank) 2 "  ").text
    KeyPress.planEnter text 2 12 2 = .insert .sourceToTarget "\n    to: " ∧
      (∃ column, Line.KeyAt "  - from: A" "from" column ∧ Line.KeyAt "    to: " "to" column) ∧
      context.kind = .itemKey ∧
      ∃ column, Line.KeyAt (inserted "- from") "from" column ∧
        Line.KeyAt (inserted "  to") "to" column := by
  intro text blank context inserted
  have planned : KeyPress.planEnter text 2 12 2 = .insert .sourceToTarget "\n    to: " := by
    decide
  have asked : context.kind = .itemKey := by decide
  have line : Lines.get (Lines.ofText text) (Lines.caretIndex (Lines.ofText text) 2) =
      "  - from: A".toList := by decide
  have width : Line.dashWidth "  - from: A" = 2 := by decide
  obtain ⟨entered, offered⟩ := keys_line_up_iff (by decide : (1 : Int) ≤ 2)
  obtain ⟨below, source, target, same, above, under, columns⟩ := entered text 2 12 _ planned
  obtain rfl : below = "    to: ".toList := (List.cons.inj same).2.symm
  rw [line] at above columns
  obtain rfl : target = source := columns.2 fun _ => by rw [width]; rfl
  obtain ⟨first, other, opening, following, level⟩ := offered context asked "- from" "  to"
    (by decide) (by decide) (by decide) .default (Lines.ofText blank) 2 "  "
  obtain rfl : first = other := level.2 rfl
  exact ⟨planned, ⟨_, above, under⟩, asked, _, opening, following⟩

/-- With levels of four, the target stands two columns right of the source. -/
theorem target_right_of_source_at_four :
    let text := "links:\n    - from: A".toList
    let line := Lines.get (Lines.ofText text) 1
    KeyPress.planEnter text 2 14 4 = .insert .sourceToTarget "\n        to: " ∧
      Line.KeyAt line "from" 6 ∧ Line.KeyAt "        to: " "to" 8 ∧
      ¬ ∃ column, Line.KeyAt line "from" column ∧ Line.KeyAt "        to: " "to" column := by
  intro text line
  have above : Line.KeyAt line "from" 6 := ⟨"    - ".toList, " A".toList, rfl, rfl, rfl⟩
  have under : Line.KeyAt "        to: " "to" 8 := ⟨"        ".toList, " ".toList, rfl, rfl, rfl⟩
  refine ⟨by decide, above, under, ?_⟩
  rintro ⟨column, source, target⟩
  have first := source.unique above
  have second := target.unique under
  omega

end Item
end GraphCompletion
