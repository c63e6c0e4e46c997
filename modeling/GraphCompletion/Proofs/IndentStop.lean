import GraphCompletion.Proofs.SharedParses
import Mathlib.Order.Bounds.Defs

/-!
# Backspace goes back to an indent stop

What Backspace deletes is white space left of the caret: all of it on a padding line, else what stands
behind the last indent stop before the caret. Only an indentation by nothing could keep it from a plan,
and a session under checked settings never has that one, whatever indentation it is given.
-/
namespace GraphCompletion

namespace KeyPress

/-- The line of a caret, in the document with empty lines added below down to it. -/
def caretLine (text : Text) (lineNumber : Int) : Text :=
  let lines := Lines.padTo (Lines.ofText text) lineNumber
  Lines.get lines (Lines.clampLineNumber lineNumber lines.length - 1)

/-- What stands in a line from one column up to another. -/
def between (line : Text) (startColumn endColumn : Int) : Text :=
  (line.take (endColumn - 1).toNat).drop (startColumn - 1).toNat

/-- The plan deletes white space of the line up to the caret, if anything, and where it deletes to an
indent stop, to the last one before the caret. -/
structure BackspacePlan.Clears (plan : BackspacePlan) (line : Text) (caret indentSize : Int) : Prop where
  startsInside : 1 ≤ plan.startColumn
  ordered : plan.startColumn ≤ plan.endColumn
  endsInside : plan.endColumn ≤ line.length + 1
  blank : ∀ c ∈ between line plan.startColumn plan.endColumn, Text.isBlankChar c = true
  left : plan.edit = none → plan.startColumn = caret ∧ plan.endColumn = caret
  deletes : plan.edit = some .indent → plan.startColumn < plan.endColumn
  stop : plan.edit = some .indent → 1 ≤ indentSize →
    IsGreatest {stop : Int | indentSize ∣ stop ∧ stop < plan.endColumn - 1} (plan.startColumn - 1)

variable {line : Text} {caret offset count indentSize : Int}

/-- An indent stop less than one indentation before an offset, or just one, is the last one before it. -/
theorem isGreatest_stop (positive : 0 < count) (short : count ≤ indentSize)
    (stops : indentSize ∣ offset - count) :
    IsGreatest {stop : Int | indentSize ∣ stop ∧ stop < offset} (offset - count) := by
  constructor
  · exact ⟨stops, by omega⟩
  · intro stop ⟨multiple, before⟩
    by_contra beyond
    have apart : indentSize ∣ stop - (offset - count) := Int.dvd_sub multiple stops
    have wide := Int.le_of_dvd (by omega) apart
    omega

/-- The columns that lie between an offset and the last indent stop before it. -/
theorem dvd_sub_of_fmod (positive : 1 ≤ indentSize) (inside : 0 < offset) :
    let count := if offset.fmod indentSize = 0 then min indentSize offset else offset.fmod indentSize
    count ≤ offset ∧ count ≤ indentSize ∧ indentSize ∣ offset - count := by
  intro count
  by_cases even : offset.fmod indentSize = 0
  · have multiple : indentSize ∣ offset := Int.dvd_of_fmod_eq_zero even
    have full : count = indentSize := by
      have fits := Int.le_of_dvd inside multiple
      simp only [count, even, ↓reduceIte]
      omega
    rw [full]
    exact ⟨Int.le_of_dvd inside multiple, Int.le_refl _, Int.dvd_sub multiple (Int.dvd_refl _)⟩
  · have past : count = offset.fmod indentSize := by simp only [count, even, ↓reduceIte]
    have within : offset.fmod indentSize ≤ offset := by
      have stops := Int.mul_nonneg (Int.le_of_lt positive)
        (Int.ediv_nonneg (Int.le_of_lt inside) (Int.le_of_lt positive))
      rw [Int.fmod_eq_emod_of_nonneg offset (Int.le_of_lt positive), Int.emod_def]
      omega
    rw [past]
    exact ⟨within, Int.le_of_lt (Int.fmod_lt_of_pos offset positive), Int.dvd_self_sub_fmod⟩

/-- Columns are deleted only behind white space on a line of white space, and then up to an indent
stop. -/
theorem deleteCount_spec (line : Text) (inside : 1 ≤ caret ∧ caret ≤ line.length + 1)
    (nonzero : indentSize ≠ 0) :
    ∃ count, deleteCount line caret indentSize = .ok count ∧
      (0 < count → 1 < caret ∧ Text.isBlank line = true ∧
        (1 ≤ indentSize →
          count ≤ caret - 1 ∧ count ≤ indentSize ∧ indentSize ∣ caret - 1 - count)) := by
  have place : max 0 (min (caret - 1) line.length) = caret - 1 := by omega
  unfold deleteCount
  simp only [place]
  split
  · exact ⟨0, rfl, fun positive => absurd positive (Int.lt_irrefl 0)⟩
  next solid =>
    simp only [Bool.or_eq_true, Bool.not_eq_true', not_or, Bool.not_eq_true, Bool.not_eq_false] at solid
    obtain ⟨⟨filled, before⟩, after⟩ := solid
    have behind : 1 < caret := by
      by_contra first
      have start : (caret - 1).toNat = 0 := by omega
      simp [start] at filled
    have blank : Text.isBlank line = true := by
      rw [← List.take_append_drop (caret - 1).toNat line, Text.isBlank, List.all_append, Bool.and_eq_true]
      exact ⟨before, after⟩
    exact ⟨_, rfl, fun _ => ⟨behind, blank, fun indents => dvd_sub_of_fmod indents (by omega)⟩⟩

theorem blank_between (blank : Text.isBlank line = true) (startColumn endColumn : Int) :
    ∀ c ∈ between line startColumn endColumn, Text.isBlankChar c = true := fun c member =>
  List.all_eq_true.1 blank c (List.mem_of_mem_take (List.mem_of_mem_drop member))

theorem isBlank_of_isRootBoundary {lines : List Text} {index : Int}
    (boundary : Lines.isRootBoundary lines index = true) : Text.isBlank (Lines.get lines index) = true := by
  simp only [Lines.isRootBoundary, Bool.and_eq_true] at boundary
  exact boundary.1.2

theorem clears_padding (inside : 1 ≤ caret ∧ caret ≤ line.length + 1) (blank : Text.isBlank line = true) :
    BackspacePlan.Clears ⟨some .rootBoundary, 1, caret⟩ line caret indentSize := by
  constructor
  case startsInside => exact Int.le_refl 1
  case ordered => exact inside.1
  case endsInside => exact inside.2
  case blank => exact blank_between blank 1 caret
  case left | deletes | stop =>
    intro other
    cases other

theorem clears_left (inside : 1 ≤ caret ∧ caret ≤ line.length + 1) :
    BackspacePlan.Clears ⟨none, caret, caret⟩ line caret indentSize := by
  constructor
  case startsInside => exact inside.1
  case ordered => exact Int.le_refl caret
  case endsInside => exact inside.2
  case blank =>
    intro c member
    simp [between] at member
  case left => exact fun _ => ⟨rfl, rfl⟩
  case deletes | stop =>
    intro other
    cases other

theorem clears_indent (inside : 1 ≤ caret ∧ caret ≤ line.length + 1) (blank : Text.isBlank line = true)
    (behind : 1 < caret) (positive : 0 < count)
    (stops : 1 ≤ indentSize →
      count ≤ caret - 1 ∧ count ≤ indentSize ∧ indentSize ∣ caret - 1 - count) :
    BackspacePlan.Clears ⟨some .indent, max 1 (caret - count), caret⟩ line caret indentSize := by
  have before : max 1 (caret - count) < caret := by omega
  constructor
  case startsInside => exact Int.le_max_left 1 _
  case ordered => exact Int.le_of_lt before
  case endsInside => exact inside.2
  case blank => exact blank_between blank _ caret
  case left =>
    intro other
    cases other
  case deletes => exact fun _ => before
  case stop =>
    intro _ indents
    obtain ⟨fits, short, multiple⟩ := stops indents
    have reach : max 1 (caret - count) - 1 = caret - 1 - count := by omega
    simp only [reach]
    exact isGreatest_stop positive short multiple

/-- Unless the indentation is by nothing, Backspace has a plan. -/
theorem exists_planBackspace (text : Text) (lineNumber column : Int) (nonzero : indentSize ≠ 0) :
    ∃ plan, planBackspace text lineNumber column indentSize = .ok plan ∧
      plan.Clears (caretLine text lineNumber)
        (Lines.clampColumn column (caretLine text lineNumber)) indentSize := by
  have inside := Lines.clampColumn_bounds column (caretLine text lineNumber)
  obtain ⟨count, counted, spec⟩ := deleteCount_spec (caretLine text lineNumber) inside nonzero
  unfold planBackspace
  simp only
  split
  next boundary => exact ⟨_, rfl, clears_padding inside (isBlank_of_isRootBoundary boundary.2)⟩
  next =>
    unfold caretLine at *
    rw [counted]
    simp only [bind, Except.bind]
    split
    next => exact ⟨_, rfl, clears_left inside⟩
    next more =>
      have positive : 0 < count := Int.not_le.1 more
      obtain ⟨behind, blank, stops⟩ := spec positive
      exact ⟨_, rfl, clears_indent inside blank behind positive stops⟩

end KeyPress

namespace Settings

theorem indentSize_pos {fields : Message.Fields} {settings : Settings}
    (checked : ofFields fields = .value settings) : 0 < settings.indentSize := by
  unfold ofFields at checked
  cases read : ofFieldsUnchecked fields {} with
  | issues found =>
    rw [read] at checked
    cases checked
  | value unchecked =>
    rw [read, Checked.andThen] at checked
    split at checked
    next positive =>
      cases checked
      exact positive
    next => cases checked

end Settings

namespace Session

variable {settings : Settings}

/-- A session that is given no indentation, or the one by nothing, takes that of its settings. -/
theorem indentSize_start_ne_zero (given : Option Int) (positive : 0 < settings.indentSize) :
    (start given settings).indentSize ≠ 0 := by
  unfold start
  cases kept : given.filter fun size => size != 0 with
  | none => exact Int.ne_of_gt positive
  | some size => simpa using (Option.filter_eq_some_iff.1 kept).2

/-- No command changes the indentation. -/
theorem indentSize_run (settings : Settings) (session : Session) (command : Command) :
    (session.run settings command).session.indentSize = session.indentSize := by
  cases command with
  | complete request =>
    rw [run, session_complete]
    split <;> rfl
  | press request => rw [run, session_press]
  | invalidate | share => rfl

theorem indentSize_afterAll (settings : Settings) (session : Session) (commands : List Command) :
    (session.afterAll settings commands).indentSize = session.indentSize := by
  induction commands generalizing session with
  | nil => rfl
  | cons command rest ih =>
    rw [← indentSize_run settings session command]
    exact ih _

/-- Where the indentation is not by nothing, every key press is answered. -/
theorem exists_press_answer {session : Session} (nonzero : session.indentSize ≠ 0)
    (request : KeyPressRequest) :
    ∃ response, (session.press request).answer = .ok (.keyPress response) := by
  have answered : ∃ response, request.answer session.indentSize = .ok response := by
    unfold KeyPressRequest.answer
    cases request.key with
    | enter => exact ⟨_, rfl⟩
    | backspace =>
      obtain ⟨plan, planned, _⟩ := KeyPress.exists_planBackspace request.caret.text
        request.caret.lineNumber request.caret.column nonzero
      exact ⟨_, congrArg (Except.map _) planned⟩
  obtain ⟨response, answer⟩ := answered
  exact ⟨response, by rw [press, answer]⟩

end Session

namespace KeyPress

/-- Backspace deletes white space only, back to an indent stop or a whole padding line, wherever the
caret is and by whatever the document is indented, if not by nothing; and no key press fails in a session
under checked settings, whatever indentation it was given and whatever it was asked before. -/
theorem backspace_stops_at_indents :
    (∀ (text : Text) (lineNumber column indentSize : Int), indentSize ≠ 0 →
      ∃ plan, planBackspace text lineNumber column indentSize = .ok plan ∧
        plan.Clears (caretLine text lineNumber)
          (Lines.clampColumn column (caretLine text lineNumber)) indentSize) ∧
    (∀ fields settings, Settings.ofFields fields = .value settings →
      ∀ (given : Option Int) (commands : List Command) (request : KeyPressRequest),
        ∃ response, (((Session.start given settings).afterAll settings commands).press request).answer =
          .ok (.keyPress response)) := by
  constructor
  · intro text lineNumber column indentSize nonzero
    exact exists_planBackspace text lineNumber column nonzero
  · intro fields settings checked given commands request
    apply Session.exists_press_answer
    rw [Session.indentSize_afterAll]
    exact Session.indentSize_start_ne_zero given (Settings.indentSize_pos checked)

/-- Six blanks go back to four; an indentation by nothing gives way to that of the settings. -/
theorem backspace_stops_at_four :
    planBackspace "nodes:\n      " 2 9 4 = .ok ⟨some .indent, 5, 7⟩ ∧
      IsGreatest {stop : Int | 4 ∣ stop ∧ stop < 6} 4 ∧
      ∃ response, ((Session.start (some 0) { indentSize := 4 }).press
        ⟨{ text := "nodes:\n      ", lineNumber := 2, column := 9 }, .backspace⟩).answer =
          .ok (.keyPress response) := by
  obtain ⟨plans, presses⟩ := backspace_stops_at_indents
  have planned : planBackspace "nodes:\n      " 2 9 4 = .ok ⟨some .indent, 5, 7⟩ := by decide
  obtain ⟨plan, same, clears⟩ := plans "nodes:\n      " 2 9 4 (by decide)
  cases planned.symm.trans same
  have checked : Settings.ofFields [("AUTOCOMPLETE_INDENT_SIZE", .text "4")] =
      .value { indentSize := 4 } := by decide
  exact ⟨planned, clears.stop rfl (by decide), presses _ _ checked (some 0) [] _⟩

end KeyPress
end GraphCompletion
