import GraphCompletion.KeyPress
import GraphCompletion.Proofs.InsertedLine
import GraphCompletion.Proofs.LineBreak
import GraphCompletion.Proofs.TypedValue
import GraphCompletion.Proofs.ValueFollowUp

/-!
# The line that Enter opens

Enter plans its line from the context before the edit, and the document is read afresh behind it. The
plan is inverted once: which edit is made, and the line below the break. That line is then found under
the header of the caret's line as far as it is indented further than that header, and what may be typed
on it follows from its header and its indentation.
-/
namespace GraphCompletion

variable {text : Text} {lineNumber column indentSize : Int}

namespace EditingContext

/-- A line number that is moved into the document first gives the same context. -/
theorem resolve_clampLineNumber (text : Text) (lineNumber column indentSize : Int) :
    resolve text (Lines.clampLineNumber lineNumber
      (Lines.padTo (Lines.ofText text) lineNumber).length) column indentSize =
      resolve text lineNumber column indentSize := by
  have filled := List.length_pos_iff.2 (Lines.ofText_ne_nil text)
  have length := Lines.length_padTo (Lines.ofText text) lineNumber
  let number := Lines.clampLineNumber lineNumber (Lines.padTo (Lines.ofText text) lineNumber).length
  have moved : number = max 1 lineNumber := by
    simp only [number, Lines.clampLineNumber, length]
    omega
  have padded : Lines.padTo (Lines.ofText text) number = Lines.padTo (Lines.ofText text) lineNumber := by
    have added : (number - (Lines.ofText text).length).toNat =
        (lineNumber - (Lines.ofText text).length).toNat := by omega
    rw [Lines.padTo, Lines.padTo, added]
  have again : Lines.clampLineNumber number (Lines.padTo (Lines.ofText text) lineNumber).length =
      number := by
    simp only [Lines.clampLineNumber, length, moved]
    omega
  show resolve text number column indentSize = _
  unfold resolve ofLines
  simp only [padded, again]
  rfl

theorem ofValue?_nil (area : Section) : ofValue? area [] = none := by
  cases area <;> rfl

theorem ofKey?_nil {area : Section} (inside : area ≠ .root) :
    ofKey? area true [] = some ⟨.itemKey, area, [], none⟩ := by
  cases area with
  | root => exact absurd rfl inside
  | nodes => rfl
  | links => rfl

/-- At the end of a blank line that reaches no further than a collection's items, an item's key is asked
for. -/
theorem resolve_of_blank {index h : Nat} {scope : Scope} {line : Text}
    (held : (Lines.ofText text)[index]? = some line) (blank : Line.isBlank line = true)
    (governs : Scope.GovernsLine (Lines.ofText text) index h scope)
    (shallow : Line.indent line ≤ scope.indent + indentSize) :
    resolve text (index + 1) (line.length + 1) indentSize = ⟨.itemKey, scope.area, [], none⟩ := by
  have inside : index < (Lines.ofText text).length := (List.getElem?_eq_some_iff.1 held).1
  have own := Lines.get_eq_of_getElem? held
  have within : 1 ≤ (line.length : Int) + 1 ∧
      (line.length : Int) + 1 ≤ (Lines.get (Lines.ofText text) index).length + 1 := by
    rw [own]
    omega
  have nothing : Text.strip (line.take ((line.length : Int) + 1 - 1).toNat) = [] := by
    rw [Int.add_sub_cancel, Int.toNat_natCast, List.take_length, Text.strip_of_isBlank blank]
  have area : scope.area ≠ .root := by
    intro root
    have collection := governs.isCollection
    rw [root] at collection
    cases collection
  have ends : Item.continuesAfterLastKey (Lines.ofText text) (index + 1) scope.area
      (scope.indent + indentSize) = false := by
    have place : max 0 ((index : Int) + 1 - 1) = index := by omega
    have reaches : ¬ (scope.indent + indentSize < (Line.indent line : Int)) := by omega
    unfold Item.continuesAfterLastKey
    simp only [place, own, reaches, decide_false, Bool.and_false, Bool.false_and]
  have governing := governs.governing_eq
  rw [own] at governing
  rw [resolve_of_inside indentSize inside within, own, nothing]
  unfold ofLine
  simp only [Int.add_sub_cancel, own, governing, ends, shallow, area, false_and, and_false, if_false,
    Bool.false_eq_true, decide_true, ofValue?_nil, ofKey?_nil area, Option.none_or, Option.getD_some]

end EditingContext

namespace Lines

/-- A text that begins with a line break leaves on its line what stands left of the caret, and what stands
right of it goes to the end of the text's own line. -/
theorem getElem?_typeAt_break (text : Text) (lineNumber column : Int) {lower : Text}
    (single : '\n' ∉ lower) :
    let lines := ofText text
    let index := caretIndex lines lineNumber
    let offset := caretOffset lines lineNumber column
    let after := ofText (typeAt text lineNumber column ('\n' :: lower))
    (∀ i, i < index → after[i]? = lines[i]?) ∧
      after[index]? = some ((get lines index).take offset) ∧
      after[index + 1]? = some (lower ++ (get lines index).drop offset) := by
  intro lines index offset after
  have inside : index < lines.length := caretIndex_lt lineNumber (ofText_ne_nil text)
  have nothing : '\n' ∉ ([] : Text) := List.not_mem_nil
  obtain ⟨upper, below⟩ := getElem?_replaceWithin_break inside offset offset nothing single
  rw [List.append_nil] at upper
  exact ⟨fun i above => getElem?_replace_of_lt inside above, upper, below⟩

end Lines

/-- A blank line that is opened at the end of a line stands under the header of that line exactly if it is
indented further than the header. -/
theorem Scope.GovernsLine.typeAt_blank_iff {lower : Text} {h : Nat} {scope : Scope}
    (governs : GovernsLine (Lines.ofText text) (Lines.caretIndex (Lines.ofText text) lineNumber) h scope)
    (strict : h < Lines.caretIndex (Lines.ofText text) lineNumber)
    (atEnd : Lines.caretOffset (Lines.ofText text) lineNumber column =
      (Lines.get (Lines.ofText text) (Lines.caretIndex (Lines.ofText text) lineNumber)).length)
    (blank : Line.isBlank lower = true) (single : '\n' ∉ lower)
    (kept : ∀ i other, h < i → i < Lines.caretIndex (Lines.ofText text) lineNumber →
      HeaderAt (Lines.ofText text) other i → Line.indent lower ≤ other.indent) :
    let index := Lines.caretIndex (Lines.ofText text) lineNumber
    let after := Lines.ofText (Lines.typeAt text lineNumber column ('\n' :: lower))
    after[index + 1]? = some lower ∧
      (GovernsLine after (index + 1) h scope ↔ scope.indent < Line.indent lower) := by
  intro index after
  obtain ⟨above, first, second⟩ := Lines.getElem?_typeAt_break text lineNumber column single
  rw [atEnd, List.take_length] at first
  rw [atEnd, List.drop_length, List.append_nil] at second
  have present : index < (Lines.ofText text).length :=
    Lines.caretIndex_lt lineNumber (Lines.ofText_ne_nil text)
  have plain := governs.ofHeader?_eq_none strict (Lines.getElem?_eq_get present)
  have plain' : ofHeader? lower = none := ofHeader?_of_isBlank blank
  refine ⟨second, ?_⟩
  constructor
  · intro stays
    exact (stays.above second plain').2
  · intro deeper
    exact governs.below strict above first second plain plain' deeper kept

namespace KeyPress

variable {edit : EnterEdit} {inserted : Text}

namespace EnterEdit

/-- How deep the line is indented that an edit of Enter opens below a line. -/
def depth (line : Text) (indentSize : Int) : EnterEdit → Int
  | sourceToTarget => if Line.isDash line then Line.indent line + indentSize else Line.indent line
  | targetToNextItem => max 0 (Line.indent line - indentSize)
  | labelToNextItem =>
    if Line.isDash line then Line.indent line else max indentSize (Line.indent line - indentSize)

/-- The line that an edit of Enter opens below a line: the target's key, or white space only. -/
def lowerLine (line : Text) (indentSize : Int) (edit : EnterEdit) : Text :=
  match edit with
  | sourceToTarget => Insertion.keyLine (edit.depth line indentSize) Endpoint.target.word
  | targetToNextItem | labelToNextItem => Text.spaces (edit.depth line indentSize)

/-- What an edit of Enter follows: a completed endpoint left of the caret, or a label on its line. -/
def Follows (context : EditingContext) (line : Text) : EnterEdit → Prop
  | sourceToTarget => context.kind = .endpointValue ∧ context.endpoint = some .source ∧
      isCompleteEndpoint context.typed = true
  | targetToNextItem => context.kind = .endpointValue ∧ context.endpoint = some .target ∧
      isCompleteEndpoint context.typed = true
  | labelToNextItem => hasLabelText line = true

end EnterEdit

theorem EnterEdit.Follows.isValue {context : EditingContext} {line : Text}
    (follows : EnterEdit.sourceToTarget.Follows context line) : context.kind.isValue = true := by
  rw [follows.1]
  rfl

theorem newLine_append_target (depth : Int) :
    newLine depth ++ "to: ".toList = '\n' :: Insertion.keyLine depth Endpoint.target.word := by
  simp [newLine, Insertion.keyLine, Endpoint.word]

/-- What Enter inserts is a line break and the line below it, and it does so among links only. -/
theorem planEnter_eq_insert (planned : planEnter text lineNumber column indentSize = .insert edit inserted) :
    let lines := Lines.ofText text
    let line := Lines.get lines (Lines.caretIndex lines lineNumber)
    let context := EditingContext.resolve text lineNumber column indentSize
    context.area = .links ∧ inserted = '\n' :: edit.lowerLine line indentSize ∧
      edit.Follows context line := by
  intro lines line context
  have links : context.area = .links := by
    unfold planEnter at planned
    simp only [EditingContext.resolve_clampLineNumber] at planned
    split at planned
    next area _ _ => exact area
    next area _ _ => exact area
    next area _ _ => exact area
    next => cases planned
  have inside : context.area ≠ .root := by
    rw [links]
    decide
  -- Among links the caret's line is one of the document's.
  have padded : Lines.padTo (Lines.ofText text) lineNumber = lines :=
    Lines.padTo_of_le (EditingContext.resolve_eq_ofLine inside).1
  have own : Lines.get lines (Lines.clampLineNumber lineNumber lines.length - 1) = line := by
    rw [← Lines.caretIndex_eq]
  have moved : EditingContext.resolve text (Lines.clampLineNumber lineNumber lines.length) column
      indentSize = context := by
    rw [← padded]
    exact EditingContext.resolve_clampLineNumber text lineNumber column indentSize
  unfold planEnter at planned
  simp only [padded, own, moved] at planned
  split at planned
  next kind _ endpoint complete =>
    cases planned
    exact ⟨links, newLine_append_target _, kind, endpoint, complete⟩
  next kind _ endpoint complete =>
    cases planned
    exact ⟨links, rfl, kind, endpoint, complete⟩
  next =>
    split at planned
    next labelled =>
      cases planned
      exact ⟨links, rfl, labelled⟩
    next => cases planned
  next => cases planned

theorem indent_lowerLine (line : Text) (indentSize : Int) (edit : EnterEdit) :
    Line.indent (edit.lowerLine line indentSize) = (edit.depth line indentSize).toNat := by
  have blank (depth : Int) : Line.indent (Text.spaces depth) = depth.toNat := by
    rw [Line.indent, Text.leadingBlanks_of_isBlank (Text.isBlank_spaces depth), Text.length_spaces]
  cases edit with
  | sourceToTarget => exact Insertion.indent_keyLine rfl _
  | targetToNextItem | labelToNextItem => exact blank _

theorem newline_not_mem_lowerLine (line : Text) (indentSize : Int) (edit : EnterEdit) :
    '\n' ∉ edit.lowerLine line indentSize := by
  cases edit with
  | sourceToTarget => exact Insertion.newline_not_mem_keyLine rfl _
  | targetToNextItem | labelToNextItem => simp [EnterEdit.lowerLine, Text.spaces, List.mem_replicate]

theorem isBlank_lowerLine (next : edit = .targetToNextItem ∨ edit = .labelToNextItem) (line : Text)
    (indentSize : Int) : Line.isBlank (edit.lowerLine line indentSize) = true := by
  rcases next with rfl | rfl
  · exact Text.isBlank_spaces _
  · exact Text.isBlank_spaces _

/-- Below a line where a link's keys are expected, a new line stands at the column of the items, but behind
the target of a link that begins on that line at the column of the header. -/
theorem EnterEdit.depth_next {line : Text} {base : Nat}
    (place : Line.isDash line = true ∧ Line.indent line = base + indentSize ∨
      Line.isDash line = false ∧ Line.indent line = base + 2 * indentSize)
    (next : edit = .targetToNextItem ∨ edit = .labelToNextItem) :
    edit.depth line indentSize =
      if edit = .targetToNextItem ∧ Line.isDash line = true then (base : Int)
      else base + indentSize := by
  rcases next with rfl | rfl
  · rcases place with ⟨dash, column⟩ | ⟨dash, column⟩
    · simp only [depth, dash, column, and_self, if_true]
      omega
    · simp only [depth, dash, column, Bool.false_eq_true, and_false, if_false]
      omega
  · rcases place with ⟨dash, column⟩ | ⟨dash, column⟩
    · simp only [depth, dash, column, reduceCtorEq, false_and, if_true, if_false]
    · simp only [depth, dash, column, reduceCtorEq, false_and, Bool.false_eq_true, if_false]
      omega

/-- Where a source is complete, Enter opens a line on which the target is typed, under the header of the
caret's line, whatever stood right of the caret. -/
theorem target_typed_below_source (positive : 1 ≤ indentSize)
    (planned : planEnter text lineNumber column indentSize = .insert .sourceToTarget inserted) :
    let lines := Lines.ofText text
    let index := Lines.caretIndex lines lineNumber
    ∃ h scope below, Scope.GovernsLine lines index h scope ∧ inserted = '\n' :: below ∧
      ((∀ i other, h < i → i < index → Scope.HeaderAt lines other i →
          Line.indent below ≤ other.indent) →
        let after := Lines.typeAt text lineNumber column inserted
        EditingContext.resolve after (index + 2) (below.length + 1) indentSize =
            ⟨.endpointValue, .links, [], some .target⟩ ∧
          Scope.GovernsLine (Lines.ofText after) (index + 1) h scope) := by
  intro lines index
  let line := Lines.get lines index
  obtain ⟨links, rfl, follows⟩ := planEnter_eq_insert planned
  obtain ⟨h, scope, governs, strict, deeper, found⟩ :=
    EditingContext.exists_governsLine_of_isValue follows.isValue
  let below := EnterEdit.lowerLine line indentSize .sourceToTarget
  refine ⟨h, scope, below, governs, rfl, ?_⟩
  intro kept after
  obtain ⟨above, first, second⟩ := Lines.getElem?_typeAt_break text lineNumber column
    (newline_not_mem_lowerLine line indentSize .sourceToTarget)
  have area : scope.area = .links := by
    rw [← EditingContext.area_of_ofValue? found, links]
  have value : EditingContext.ofKeyValue? scope.area Endpoint.target.word =
      some ⟨.endpointValue, .links, [], some .target⟩ := by
    rw [area]
    rfl
  have named : Text.afterDash (Text.strip below) = Endpoint.target.word ++ [':'] :=
    Insertion.afterDash_strip_keyLine rfl _
  have target : EditingContext.ofValue? scope.area (Text.strip below) =
      some ⟨.endpointValue, .links, [], some .target⟩ :=
    EditingContext.ofValue?_of_key_blank value named rfl
  have upper := EditingContext.ofHeader?_of_value found []
  rw [List.append_nil] at upper
  let right := line.drop (Lines.caretOffset lines lineNumber column)
  have depth : Line.indent (below ++ right) = Line.indent below :=
    Line.indent_append (EditingContext.isBlank_of_value target) right
  have inward : Line.indent line ≤ Line.indent below := by
    rw [indent_lowerLine, EnterEdit.depth]
    split <;> omega
  have stays : Scope.GovernsLine (Lines.ofText after) (index + 1) h scope := by
    apply governs.below strict above first second upper (EditingContext.ofHeader?_of_value target right)
    · rw [depth]
      exact Nat.lt_of_lt_of_le deeper inward
    · rw [depth]
      exact kept
  have there := EditingContext.resolve_behind_key second stays value named indentSize
  have number : ((index + 1 : Nat) : Int) + 1 = index + 2 := by omega
  rw [number] at there
  exact ⟨there, stays⟩

/-- The target of a link is typed below its source also where a port and a comment end that line. -/
theorem target_typed_below_port :
    let text := "links:\n  - from: a:p # x".toList
    let after := Lines.typeAt text 2 14 "\n    to: "
    planEnter text 2 14 2 = .insert .sourceToTarget "\n    to: " ∧
      after = "links:\n  - from: a:p\n    to:  # x".toList ∧
      EditingContext.resolve after 3 9 2 = ⟨.endpointValue, .links, [], some .target⟩ ∧
      ∃ scope, Scope.GovernsLine (Lines.ofText after) 2 0 scope := by
  intro text after
  have planned : planEnter text 2 14 2 = .insert .sourceToTarget "\n    to: " := by decide
  have caret : Lines.caretIndex (Lines.ofText text) 2 = 1 := by decide
  obtain ⟨h, scope, below, governs, same, opened⟩ := target_typed_below_source (by decide) planned
  rw [caret] at governs opened
  obtain rfl : below = "    to: ".toList := (List.cons.inj same).2.symm
  -- The header above is the only one.
  have first : h = 0 := by
    obtain ⟨line, held, header⟩ := governs.header
    have reached := governs.nearest.reached
    by_contra other
    obtain rfl : h = 1 := by omega
    have dash : (Lines.ofText text)[1]?.bind Scope.ofHeader? = none := by decide
    simp [held, header] at dash
  subst first
  obtain ⟨typed, stays⟩ := opened fun i other later bound => by omega
  exact ⟨planned, by decide, typed, scope, stays⟩

/-- Behind a complete target or a label, at the end of a line where a link's keys are expected, Enter opens
a line at the column of the items, under the header of the caret's line, unless it follows a target on the
line that opens the item. -/
theorem next_item_typed_below_iff (positive : 1 ≤ indentSize)
    (planned : planEnter text lineNumber column indentSize = .insert edit inserted)
    (next : edit = .targetToNextItem ∨ edit = .labelToNextItem) :
    let lines := Lines.ofText text
    let index := Lines.caretIndex lines lineNumber
    let line := Lines.get lines index
    ∀ h scope, Scope.GovernsLine lines index h scope →
      (Line.isDash line = true ∧ Line.indent line = scope.indent + indentSize ∨
        Line.isDash line = false ∧ Line.indent line = scope.indent + 2 * indentSize) →
      Lines.caretOffset lines lineNumber column = line.length →
      (∀ i other, h < i → i < index → Scope.HeaderAt lines other i →
        scope.indent + 2 * indentSize ≤ other.indent) →
      ∃ below, inserted = '\n' :: below ∧
        let after := Lines.typeAt text lineNumber column inserted
        let context := EditingContext.resolve after (index + 2) (below.length + 1) indentSize
        (context.kind = .itemKey ∧ context.area = .links ∧
            Scope.GovernsLine (Lines.ofText after) (index + 1) h scope ↔
          ¬ (edit = .targetToNextItem ∧ Line.isDash line = true)) := by
  intro lines index line h scope governs place atEnd kept
  obtain ⟨links, rfl, _⟩ := planEnter_eq_insert planned
  let below := edit.lowerLine line indentSize
  refine ⟨below, rfl, ?_⟩
  intro after context
  have blank : Line.isBlank below = true := isBlank_lowerLine next line indentSize
  have depth : (Line.indent below : Int) =
      if edit = .targetToNextItem ∧ Line.isDash line = true then (scope.indent : Int)
      else scope.indent + indentSize := by
    rw [indent_lowerLine, EnterEdit.depth_next place next]
    split <;> omega
  have strict : h < index := by
    apply governs.lt_of_indent_lt
    show scope.indent < Line.indent line
    omega
  have level : Line.indent below ≤ scope.indent + indentSize := by omega
  have shallow : ∀ i other, h < i → i < index → Scope.HeaderAt lines other i →
      Line.indent below ≤ other.indent := by
    intro i other later bound header
    have least := kept i other later bound header
    omega
  obtain ⟨held, stands⟩ := governs.typeAt_blank_iff strict atEnd blank
    (newline_not_mem_lowerLine line indentSize edit) shallow
  by_cases dedented : edit = .targetToNextItem ∧ Line.isDash line = true
  · rw [if_pos dedented] at depth
    apply iff_of_false
    · intro both
      have deeper : scope.indent < Line.indent below := stands.1 both.2.2
      omega
    · exact not_not_intro dedented
  · rw [if_neg dedented] at depth
    have deeper : scope.indent < Line.indent below := by omega
    have stays := stands.2 deeper
    have typed := EditingContext.resolve_of_blank held blank stays level
    have number : ((index + 1 : Nat) : Int) + 1 = index + 2 := by omega
    rw [number] at typed
    have inside : (EditingContext.resolve text lineNumber column indentSize).area ≠ .root := by
      rw [links]
      decide
    obtain ⟨_, other, found, same⟩ := EditingContext.exists_governsLine inside
    have area : scope.area = .links := by rw [(governs.unique found).2, same, links]
    apply iff_of_true _ dedented
    exact ⟨congrArg EditingContext.kind typed, (congrArg EditingContext.area typed).trans area, stays⟩

/-- Below the target of a link that began on the line above, the next link is expected. -/
theorem next_link_typed_below_target :
    let text := "links:\n  - from: A\n    to: B".toList
    let after := Lines.typeAt text 3 10 "\n  "
    let context := EditingContext.resolve after 4 3 2
    planEnter text 3 10 2 = .insert .targetToNextItem "\n  " ∧
      after = "links:\n  - from: A\n    to: B\n  ".toList ∧
      context.kind = .itemKey ∧ context.area = .links ∧
      Scope.GovernsLine (Lines.ofText after) 3 0 ⟨.links, 0⟩ := by
  intro text after context
  have planned : planEnter text 3 10 2 = .insert .targetToNextItem "\n  " := by decide
  have caret : Lines.caretIndex (Lines.ofText text) 3 = 2 := by decide
  have depth : Line.indent (Lines.get (Lines.ofText text) (2 : Nat)) = 4 := by decide
  have bare : Line.isDash (Lines.get (Lines.ofText text) (2 : Nat)) = false := by decide
  have atEnd : Lines.caretOffset (Lines.ofText text) 3 10 =
      (Lines.get (Lines.ofText text) (2 : Nat)).length := by decide
  obtain ⟨scope, governs⟩ : ∃ scope, Scope.Governs (Lines.ofText text) (2 : Nat) 4 0 scope :=
    Scope.governingLine?_eq_some_iff.1 (by decide)
  have links : Scope.governing (Lines.ofText text) (2 : Nat) 4 = ⟨.links, 0⟩ := by decide
  obtain rfl := links.symm.trans governs.governing_eq
  have kept (i : Nat) (other : Scope) (later : 0 < i) (bound : i < 2)
      (header : Scope.HeaderAt (Lines.ofText text) other i) : ((0 : Nat) : Int) + 2 * 2 ≤ other.indent := by
    have noHeader : (Lines.ofText text)[1]?.bind Scope.ofHeader? = none := by decide
    obtain ⟨line, held, found⟩ := header
    obtain rfl : i = 1 := by omega
    simp [held, found] at noHeader
  have opened := next_item_typed_below_iff (by decide) planned (.inl rfl)
  simp only [caret] at opened
  obtain ⟨below, same, typed⟩ := opened 0 ⟨.links, 0⟩ (by rwa [Scope.GovernsLine, depth])
    (.inr ⟨bare, by rw [depth]; rfl⟩) atEnd kept
  obtain rfl : below = "  ".toList := (List.cons.inj same).2.symm
  exact ⟨planned, by decide, typed.2 fun both => Bool.eq_false_iff.1 bare both.2⟩

/-- Behind a target on the line that opens its item Enter goes back to the margin, and the next line
stands outside the links. -/
theorem target_on_item_line_leaves_links :
    let text := "links:\n  - to: B".toList
    let lines := Lines.ofText text
    let after := Lines.typeAt text 2 10 "\n"
    Scope.governingLine? lines 1 2 = some 0 ∧ Scope.governing lines 1 2 = ⟨.links, 0⟩ ∧
      Line.isDash (Lines.get lines 1) = true ∧ Line.indent (Lines.get lines 1) = 0 + 2 ∧
      Lines.caretOffset lines 2 10 = (Lines.get lines 1).length ∧
      planEnter text 2 10 2 = .insert .targetToNextItem "\n" ∧
      EditingContext.resolve after 3 1 2 = ⟨.rootItemKey, .root, [], none⟩ ∧
      Scope.governingLine? (Lines.ofText after) 2 0 = none := by
  decide

end KeyPress
end GraphCompletion
