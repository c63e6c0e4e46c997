import GraphCompletion.Number.Reading
import GraphCompletion.Proofs.Loading.Reading
import GraphCompletion.Yaml.Tag
import Mathlib.Data.Nat.Digits.Lemmas

/-!
# Whole numbers and their texts

A whole number is no larger than its text is long: every digit has a character of its own, and no base
beyond sixteen has digits; a place in base sixty has its colon besides. A plain text that is a whole
number has no gap in it.
-/
namespace GraphCompletion

namespace Text

variable {separator : Char} {t text : Text}

theorem isPrefix_head_splitOn {first : Text} {others : List Text}
    (found : splitOn separator text = first :: others) (front : t <+: text) (solid : separator ∉ t) :
    t <+: first := by
  induction text generalizing t first others with
  | nil =>
    rw [List.prefix_nil.1 front]
    exact List.nil_prefix
  | cons c rest ih =>
    cases t with
    | nil => exact List.nil_prefix
    | cons x others =>
      obtain ⟨rfl, behind⟩ := List.cons_prefix_cons.1 front
      have other : x ≠ separator := fun same => solid (same ▸ List.mem_cons_self)
      rw [splitOn, if_neg other] at found
      split at found
      next empty => exact absurd empty (splitOn_ne_nil separator rest)
      next piece pieces inner =>
        cases found
        have solid : separator ∉ others := fun member => solid (List.mem_cons_of_mem x member)
        exact List.cons_prefix_cons.2 ⟨rfl, ih inner behind solid⟩

/-- What stands in a text and has no separator stands in one of its pieces. -/
theorem exists_piece_of_isInfix (within : t <:+: text) (solid : separator ∉ t) :
    ∃ piece ∈ splitOn separator text, t <:+: piece := by
  induction text with
  | nil => exact ⟨[], List.mem_singleton_self _, within⟩
  | cons c rest ih =>
    rcases List.infix_cons_iff.1 within with front | within
    · cases found : splitOn separator (c :: rest) with
      | nil => exact absurd found (splitOn_ne_nil separator _)
      | cons first others =>
        exact ⟨first, List.mem_cons_self, (isPrefix_head_splitOn found front solid).isInfix⟩
    · obtain ⟨piece, member, within⟩ := ih within
      rw [splitOn]
      split
      · exact ⟨piece, List.mem_cons_of_mem _ member, within⟩
      · split
        next empty => exact absurd empty (splitOn_ne_nil separator rest)
        next first others found =>
          rw [found] at member
          rcases List.mem_cons.1 member with rfl | member
          · exact ⟨_, List.mem_cons_self, within.trans (List.suffix_cons c piece).isInfix⟩
          · exact ⟨piece, List.mem_cons_of_mem _ member, within⟩

end Text

namespace Number

variable {base : Nat} {t : Text}

/-- Whole numbers in texts that are no longer than this can be written out. -/
def lengthLimit : Nat := 3570

end Number

namespace Yaml.Tag

variable {t : Text}

/-- A character of a whole number. -/
def isNumberChar (c : Char) : Bool :=
  isDigitOrUnderscore c || ('a' ≤ c && c ≤ 'f') || ('A' ≤ c && c ≤ 'F') ||
    c == 'x' || c == ':' || c == '-' || c == '+'

theorem isGap_eq_false_of_isNumberChar {c : Char} (part : isNumberChar c = true) :
    PlainScalar.isGap c = false := by
  cases gap : PlainScalar.isGap c with
  | false => rfl
  | true =>
    simp only [PlainScalar.isGap, isBreak, Bool.or_eq_true, beq_iff_eq] at gap
    rcases gap with rfl | (((rfl | rfl) | rfl) | rfl) | rfl <;> cases part

theorem isNumberChar_of_isDigitOrUnderscore {c : Char} (part : isDigitOrUnderscore c = true) :
    isNumberChar c = true := by
  simp only [isNumberChar, part, Bool.true_or]

theorem isNumberChar_of_isDigit {c : Char} (digit : isDigit c = true) : isNumberChar c = true :=
  isNumberChar_of_isDigitOrUnderscore (by simp only [isDigitOrUnderscore, digit, Bool.true_or])

/-- The places in base sixty at the front are made of such characters. -/
theorem isNumberChar_of_sixtiethPlaces {fuel : Nat} {rest : Text}
    (read : sixtiethPlaces fuel t = some rest) : ∀ c ∈ t, c ∈ rest ∨ isNumberChar c = true := by
  induction fuel generalizing t rest with
  | zero => cases read
  | succ fuel ih =>
    have colon : isNumberChar ':' = true := by decide
    have later {behind : Text}
        (read : (sixtiethPlaces fuel behind).getD behind = rest) :
        ∀ c ∈ behind, c ∈ rest ∨ isNumberChar c = true := by
      cases deeper : sixtiethPlaces fuel behind with
      | none =>
        rw [deeper] at read
        exact fun c member => .inl (read ▸ member)
      | some left =>
        rw [deeper] at read
        exact ih (deeper.trans (congrArg some read))
    obtain ⟨behind, front, more⟩ := Option.map_eq_some_iff.1 read
    split at front
    next a b others =>
      split at front
      next two =>
        simp only [Bool.and_eq_true, decide_eq_true_eq] at two
        have first : isDigit a = true := by
          simp only [isDigit, Bool.and_eq_true, decide_eq_true_eq]
          exact ⟨two.1.1, Char.le_trans two.1.2 (by decide)⟩
        cases front
        simp only [List.forall_mem_cons]
        exact ⟨.inr colon, .inr (isNumberChar_of_isDigit first),
          .inr (isNumberChar_of_isDigit two.2), later more⟩
      next =>
        split at front
        next digit =>
          cases front
          rw [List.forall_mem_cons, List.forall_mem_cons]
          exact ⟨.inr colon, .inr (isNumberChar_of_isDigit digit), later more⟩
        next => cases front
    next a =>
      split at front
      next digit =>
        cases front
        rw [List.forall_mem_cons, List.forall_mem_cons]
        exact ⟨.inr colon, .inr (isNumberChar_of_isDigit digit), later more⟩
      next => cases front
    next => cases front

theorem isNumberChar_of_isInt_unsigned (form : isInt t = true) :
    ∀ c ∈ unsigned t, isNumberChar c = true := by
  have whole {p : Char → Bool} {rest : Text} (all : rest.all p = true)
      (parts : ∀ c, p c = true → isNumberChar c = true) : ∀ c ∈ rest, isNumberChar c = true :=
    fun c member => parts c (List.all_eq_true.1 all c member)
  unfold isInt at form
  simp only at form
  split at form
  next d rest shape =>
    rw [shape, List.forall_mem_cons, List.forall_mem_cons]
    refine ⟨by decide, by decide, whole form fun c part => ?_⟩
    simp only [Bool.or_eq_true, beq_iff_eq] at part
    rcases part with (rfl | rfl) | rfl <;> decide
  next d rest shape =>
    rw [shape, List.forall_mem_cons, List.forall_mem_cons]
    refine ⟨by decide, by decide, whole form fun c part => ?_⟩
    simp only [isNumberChar, part, Bool.true_or]
  next rest _ _ shape =>
    rw [shape, List.forall_mem_cons]
    refine ⟨by decide, whole form fun c part => isNumberChar_of_isDigitOrUnderscore ?_⟩
    simp only [isDigitOrUnderscore, isDigit, Bool.or_eq_true, Bool.and_eq_true, decide_eq_true_eq]
      at part ⊢
    exact part.imp_left fun octal => ⟨octal.1, Char.le_trans octal.2 (by decide)⟩
  next c rest _ _ _ shape =>
    rw [Bool.and_eq_true] at form
    rw [shape, List.forall_mem_cons]
    refine ⟨isNumberChar_of_isDigit form.1, fun x member => ?_⟩
    rw [← List.takeWhile_append_dropWhile (p := isDigitOrUnderscore) (l := rest),
      List.mem_append] at member
    rcases member with front | places
    · exact isNumberChar_of_isDigitOrUnderscore
        (List.all_eq_true.1 (Text.all_takeWhile isDigitOrUnderscore rest) x front)
    · have read := form.2
      split at read
      next none =>
        rw [none] at places
        cases places
      next =>
        exact (isNumberChar_of_sixtiethPlaces (beq_iff_eq.1 read) x places).resolve_left (by simp)
  next => cases form

/-- A whole number has no gap in it. -/
theorem isGap_eq_false_of_mem_of_isInt (form : isInt t = true) {c : Char} (member : c ∈ t) :
    PlainScalar.isGap c = false := by
  have parts := isNumberChar_of_isInt_unsigned form
  apply isGap_eq_false_of_isNumberChar
  unfold unsigned at parts
  split at parts
  · rcases List.mem_cons.1 member with rfl | member
    · decide
    · exact parts c member
  · rcases List.mem_cons.1 member with rfl | member
    · decide
    · exact parts c member
  · exact parts c member

end Yaml.Tag
end GraphCompletion
