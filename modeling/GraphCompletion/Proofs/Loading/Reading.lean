import GraphCompletion.Proofs.Loading.Outcome
import GraphCompletion.Text.Word
import GraphCompletion.Yaml.BlockScalar
import GraphCompletion.Yaml.PlainScalar
import GraphCompletion.Yaml.Property
import Mathlib.Data.List.Infix

/-!
# Readers only move forward

Whatever is read at a cursor, what is left to read afterwards is the end of what was left before, and
where nothing can be read the document is invalid or escapes a character by too large a number. A plain
scalar ends with one of its own characters, takes every colon that it has from the document, and stands
there in one piece unless it has a gap.
-/
namespace GraphCompletion.Yaml

namespace Cursor

/-- The cursor is the other one moved forward, or in its place. -/
def Follows (c before : Cursor) : Prop := c.rest <:+ before.rest

variable {a b c : Cursor}

theorem Follows.refl (c : Cursor) : c.Follows c := List.suffix_rfl

theorem Follows.trans (later : c.Follows b) (early : b.Follows a) : c.Follows a :=
  List.IsSuffix.trans later early

theorem skip_follows (n : Nat) (c : Cursor) : (c.skip n).Follows c := by
  unfold Follows
  rw [rest_skip]
  exact List.drop_suffix n c.rest

theorem next_follows (c : Cursor) : c.next.Follows c := skip_follows 1 c

theorem takeWhile_follows (p : Char → Bool) (c : Cursor) : (c.takeWhile p).2.Follows c :=
  skip_follows _ c

theorem lineBreak?_follows {found : Char} (next : c.lineBreak? = some (found, b)) : b.Follows c := by
  unfold lineBreak? at next
  split at next
  · obtain ⟨_, rfl⟩ := Prod.mk.inj (Option.some.inj next)
    exact skip_follows 2 c
  · split at next
    · obtain ⟨_, rfl⟩ := Prod.mk.inj (Option.some.inj next)
      exact next_follows c
    · split at next
      · obtain ⟨_, rfl⟩ := Prod.mk.inj (Option.some.inj next)
        exact next_follows c
      · simp at next
  · simp at next

end Cursor

open Cursor

namespace QuotedScalar

/-- An escape comes next whose number is too large for a character code. -/
def largeCodeNext : Text → Bool
  | '\\' :: mark :: rest =>
    match escapeWidth? mark with
    | some width => (hexNumber? width rest).any fun code => codeLimit ≤ code
    | none => false
  | _ => false

end QuotedScalar

/-- Somewhere in the text stands what between double quotes would be such an escape. -/
def HasLargeCode (text : Text) : Prop := ∃ part, part <:+ text ∧ QuotedScalar.largeCodeNext part = true

instance (text : Text) : Decidable (HasLargeCode text) :=
  decidable_of_iff (∃ part ∈ text.tails, QuotedScalar.largeCodeNext part = true) (by
    simp only [List.mem_tails, HasLargeCode])

/-- The document is invalid, or a character code in the text is too large. -/
def Misread (text : Text) (fault : Fault) : Prop :=
  fault.Invalid ∨ fault = .codeTooLarge ∧ HasLargeCode text

/-- A reader moves the cursor forward, or fails as it may. -/
def ReadsOn {α : Type} (may : Fault → Prop) (c : Cursor) (outcome : Except Fault (α × Cursor)) : Prop :=
  Yields may (fun read => read.2.Follows c) outcome

namespace ReadsOn

variable {α β : Type} {may : Fault → Prop} {b c : Cursor} {outcome : Except Fault (α × Cursor)}

/-- Readers are put together one behind the other. -/
theorem bind (reads : ReadsOn may c outcome) {next : α × Cursor → Except Fault (β × Cursor)}
    (after : ∀ a d, d.Follows c → ReadsOn may c (next (a, d))) : ReadsOn may c (outcome >>= next) :=
  Yields.bind reads fun read follows => after read.1 read.2 follows

/-- A reader that starts further on. -/
theorem behind (reads : ReadsOn may b outcome) (follows : b.Follows c) : ReadsOn may c outcome :=
  Yields.mono reads fun _ moved => moved.trans follows

end ReadsOn

namespace QuotedScalar

variable {text : Text} {c : Cursor}

end QuotedScalar

namespace BlockScalar

theorem skipTo_follows (column fuel : Nat) (c : Cursor) : (skipTo column fuel c).Follows c := by
  induction fuel generalizing c with
  | zero => exact .refl c
  | succ fuel ih =>
    unfold skipTo
    split
    · exact (ih c.next).trans (next_follows c)
    · exact .refl c

theorem blankLines_follows (indent fuel : Nat) (c : Cursor) :
    (blankLines indent fuel c).2.Follows c := by
  induction fuel generalizing c with
  | zero => exact .refl c
  | succ fuel ih =>
    have moved := skipTo_follows indent indent c
    unfold blankLines
    simp only
    split
    next found => exact (ih _).trans ((lineBreak?_follows found).trans moved)
    next => exact moved

/-- What comes after a line, if what comes after the blank lines behind it does. -/
theorem afterLine_follows {folded : Bool} {indent fuel : Nat}
    (lines_follows : ∀ breaks d, (lines folded indent fuel breaks d).2.2.2.Follows d)
    (text : Text) (leadsSolid : Bool) (lineBreak : Option Char) {c d : Cursor}
    (follows : d.Follows c) :
    (let (after, e) := blankLines indent (d.rest.length + 1) d
    if e.column = indent && !e.rest.isEmpty then
      let middle := joint folded leadsSolid (solidNext e.rest) lineBreak after
      let (others, lastBreak, final, f) := lines folded indent fuel after e
      (text ++ middle ++ others, lastBreak, final, f)
    else (text, lineBreak.toList, after, e)).2.2.2.Follows c := by
  have blank := (blankLines_follows indent (d.rest.length + 1) d).trans follows
  generalize blankLines indent (d.rest.length + 1) d = read at blank ⊢
  obtain ⟨after, e⟩ := read
  simp only
  split
  · exact (lines_follows after e).trans blank
  · exact blank

theorem lines_follows (folded : Bool) (indent fuel : Nat) (breaks : Text) (c : Cursor) :
    (lines folded indent fuel breaks c).2.2.2.Follows c := by
  induction fuel generalizing breaks c with
  | zero => exact .refl c
  | succ fuel ih =>
    unfold lines
    split
    · have line := takeWhile_follows (fun x => !isBreak x) c
      generalize c.takeWhile (fun x => !isBreak x) = read at line ⊢
      obtain ⟨text, d⟩ := read
      simp only
      cases ended : d.lineBreak? with
      | none => exact afterLine_follows ih (breaks ++ text) (solidNext c.rest) none line
      | some found =>
        have moved := (lineBreak?_follows ended).trans line
        exact afterLine_follows ih (breaks ++ text) (solidNext c.rest) (some found.1) moved
    · exact .refl c

end BlockScalar

namespace Property

variable {b c : Cursor}

end Property

namespace PlainScalar

variable {c d : Cursor}

/-- A character of the gaps between the parts of a scalar. -/
def isGap (c : Char) : Bool := c == ' ' || isBreak c

theorem colon_not_mem_of_gaps {white : Text} (blank : ∀ x ∈ white, isGap x = true) : ':' ∉ white :=
  fun member => by cases blank ':' member

/-- The scalar read from a cursor on ends with a character of its own, takes all its colons from the
document, and stands in the document as it is unless it has a gap. -/
structure TakenFrom (c : Cursor) (read : Reading) : Prop where
  follows : read.cursor.Follows c
  unbroken : read.text.getLast? ≠ some '\n'
  colons : read.text.count ':' + read.cursor.rest.count ':' ≤ c.rest.count ':'
  piece : read.text <+: c.rest ∨ ∃ x ∈ read.text, isGap x = true

/-- The characters of a scalar's part end no line. -/
theorem isBreak_of_mem_take_length {inFlow : Bool} {rest : Text} {x : Char}
    (member : x ∈ rest.take (length inFlow rest)) : isBreak x = false := by
  induction rest with
  | nil => simp at member
  | cons first rest ih =>
    unfold length at member
    split at member
    · simp at member
    next own =>
      rw [List.take_succ_cons, List.mem_cons] at member
      rcases member with rfl | member
      · simp only [Bool.or_eq_true, not_or, Bool.not_eq_true] at own
        exact own.1.1.2
      · exact ih member

theorem length_le (inFlow : Bool) (rest : Text) : length inFlow rest ≤ rest.length := by
  induction rest with
  | nil => exact Nat.le_refl 0
  | cons first rest ih =>
    unfold length
    split
    · exact Nat.zero_le _
    · simpa using ih

/-- A further part may come behind a gap, and the first one at the cursor that is read from. -/
structure Joins (c : Cursor) (white : Text) (read : Reading) : Prop where
  gaps : ∀ x ∈ white, isGap x = true
  first : white = [] → read.text = [] ∧ read.cursor = c

/-- A further part of the scalar, with the gap before it. -/
theorem TakenFrom.append {read : Reading} (taken : TakenFrom c read) {white : Text}
    (joins : Joins c white read) {inFlow : Bool} (filled : length inFlow read.cursor.rest ≠ 0)
    (broken : Bool) :
    TakenFrom c ⟨read.text ++ white ++ read.cursor.rest.take (length inFlow read.cursor.rest),
      read.cursor.skip (length inFlow read.cursor.rest), broken⟩ where
  follows := (skip_follows _ _).trans taken.follows
  unbroken := by
    intro last
    have some_part : read.cursor.rest.take (length inFlow read.cursor.rest) ≠ [] := by
      have bound := length_le inFlow read.cursor.rest
      refine List.ne_nil_of_length_pos ?_
      rw [List.length_take]
      omega
    rw [List.getLast?_append_of_ne_nil _ some_part] at last
    have solid := isBreak_of_mem_take_length (List.mem_of_getLast? last)
    simp [isBreak] at solid
  colons := by
    have parts : read.cursor.rest.count ':' =
        (read.cursor.rest.take (length inFlow read.cursor.rest)).count ':' +
          (read.cursor.rest.drop (length inFlow read.cursor.rest)).count ':' := by
      rw [← List.count_append, List.take_append_drop]
    have before := taken.colons
    have none := List.count_eq_zero_of_not_mem (colon_not_mem_of_gaps joins.gaps)
    simp only [List.count_append, none, rest_skip]
    omega
  piece := by
    cases white with
    | nil =>
      obtain ⟨empty, start⟩ := joins.first rfl
      refine .inl ?_
      rw [empty, start]
      exact List.take_prefix _ _
    | cons x rest => exact .inr ⟨x, by simp, joins.gaps x List.mem_cons_self⟩

/-- The gap behind a scalar's part changes the cursor only. -/
theorem TakenFrom.move {read : Reading} (taken : TakenFrom c read) (broken : Bool)
    (follows : d.Follows read.cursor) : TakenFrom c ⟨read.text, d, broken⟩ where
  follows := follows.trans taken.follows
  unbroken := taken.unbroken
  colons := Nat.le_trans (Nat.add_le_add_left (follows.sublist.count_le ':') _) taken.colons
  piece := taken.piece

end PlainScalar
end GraphCompletion.Yaml
