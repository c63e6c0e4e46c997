import GraphCompletion.Line
import Mathlib.Data.List.Basic

/-!
# Words and white space

No character of a key is white space. So a key keeps its shape when it is stripped, indented or put
before a colon, and reading the longest key of a text gives back the key that was written.
-/
namespace GraphCompletion

namespace Text

theorem isWordChar_of_isWordStart {c : Char} (start : isWordStart c = true) :
    isWordChar c = true := by
  simp only [isWordStart, isWordChar, Char.isAlphanum, Bool.or_eq_true] at start ⊢
  rcases start with letter | line
  · exact .inl (.inl (.inl letter))
  · exact .inl (.inr line)

/-- The characters of a key are in the range of ASCII that ends with the small letters. -/
theorem toNat_of_isWordChar {c : Char} (word : isWordChar c = true) :
    45 ≤ c.toNat ∧ c.toNat ≤ 122 := by
  delta isWordChar Char.isAlphanum Char.isAlpha Char.isUpper Char.isLower Char.isDigit at word
  simp only [Bool.or_eq_true, decide_eq_true_eq, Bool.and_eq_true, beq_iff_eq,
    UInt32.le_iff_toNat_le, ge_iff_le] at word
  have same : c.val.toNat = c.toNat := rfl
  simp only [same, Char.reduceVal, UInt32.reduceToNat] at word
  rcases word with (word | rfl) | rfl
  · omega
  · decide
  · decide

theorem isBlankChar_eq_false_of_isWordChar {c : Char} (word : isWordChar c = true) :
    isBlankChar c = false := by
  have range := toNat_of_isWordChar word
  simp only [isBlankChar]
  simp
  omega

theorem isWord_cons {c : Char} {rest : Text} :
    isWord (c :: rest) = true ↔ isWordStart c = true ∧ ∀ d ∈ rest, isWordChar d = true := by
  simp [isWord]

theorem isWordChar_of_mem {word : Text} (isWord : isWord word = true) {c : Char}
    (member : c ∈ word) : isWordChar c = true := by
  cases word with
  | nil => simp at member
  | cons first rest =>
    obtain ⟨start, others⟩ := isWord_cons.1 isWord
    rcases List.mem_cons.1 member with rfl | member
    · exact isWordChar_of_isWordStart start
    · exact others c member

theorem not_mem_word {word : Text} (isWord : isWord word = true) {c : Char}
    (other : isWordChar c = false) : c ∉ word := by
  intro member
  simp [isWordChar_of_mem isWord member] at other

/-- A character that is not white space ends the leading white space. -/
theorem stripLeft_append_cons {blanks : Text} (blank : isBlank blanks = true) {c : Char}
    (solid : isBlankChar c = false) (rest : Text) :
    stripLeft (blanks ++ c :: rest) = c :: rest := by
  unfold stripLeft
  rw [List.dropWhile_append_of_pos (by simpa [isBlank] using blank)]
  simp [solid]

theorem leadingBlanks_append_cons {blanks : Text} (blank : isBlank blanks = true) {c : Char}
    (solid : isBlankChar c = false) (rest : Text) :
    leadingBlanks (blanks ++ c :: rest) = blanks.length := by
  unfold leadingBlanks
  rw [List.takeWhile_append_of_pos (by simpa [isBlank] using blank)]
  simp [solid]

@[simp] theorem isBlank_spaces (n : Int) : isBlank (spaces n) = true := by
  simp only [isBlank, spaces, List.all_eq_true, List.mem_replicate]
  rintro c ⟨_, rfl⟩
  decide

@[simp] theorem length_spaces (n : Int) : (spaces n).length = n.toNat := by simp [spaces]

/-- Stripping the end leaves a first character that is not white space. -/
theorem stripRight_cons {c : Char} (solid : isBlankChar c = false) (rest : Text) :
    stripRight (c :: rest) = c :: stripRight rest := by
  unfold stripRight
  rw [List.reverse_cons, List.dropWhile_append]
  split
  next none => simp [solid, List.isEmpty_iff.1 none]
  next => simp

@[simp] theorem head?_strip (t : Text) : (strip t).head? = (stripLeft t).head? := by
  unfold strip
  cases cut : stripLeft t with
  | nil => rfl
  | cons c rest =>
    have solid : isBlankChar c = false := by
      have first := List.head?_dropWhile_not isBlankChar t
      have same : t.dropWhile isBlankChar = c :: rest := cut
      simpa [same] using first
    simp [stripRight_cons solid]

/-- White space in front does not count. -/
theorem stripLeft_append_of_isBlank {blanks : Text} (blank : isBlank blanks = true) (t : Text) :
    stripLeft (blanks ++ t) = stripLeft t :=
  List.dropWhile_append_of_pos (by simpa [isBlank] using blank)

/-- What follows the first character that is not white space is not touched. -/
theorem stripLeft_append {t : Text} (solid : isBlank t = false) (rest : Text) :
    stripLeft (t ++ rest) = stripLeft t ++ rest := by
  have filled : stripLeft t ≠ [] := by simp [stripLeft_eq_nil_iff, solid]
  unfold stripLeft at filled ⊢
  rw [List.dropWhile_append, if_neg (by simpa using filled)]

theorem strip_of_isBlank {t : Text} (blank : isBlank t = true) : strip t = [] := by
  rw [strip, (stripLeft_eq_nil_iff t).2 blank]
  rfl

theorem leadingBlanks_of_isBlank {t : Text} (blank : isBlank t = true) : leadingBlanks t = t.length := by
  have whole : t.takeWhile isBlankChar ++ stripLeft t = t := List.takeWhile_append_dropWhile
  rw [(stripLeft_eq_nil_iff t).2 blank, List.append_nil] at whole
  rw [leadingBlanks, whole]

theorem leadingBlanks_append {t : Text} (solid : isBlank t = false) (rest : Text) :
    leadingBlanks (t ++ rest) = leadingBlanks t := by
  obtain ⟨c, member, other⟩ := List.all_eq_false.1 solid
  unfold leadingBlanks
  rw [List.takeWhile_append, if_neg]
  intro whole
  have all := all_takeWhile isBlankChar t
  rw [(List.takeWhile_prefix isBlankChar).eq_of_length whole] at all
  exact other (List.all_eq_true.1 all c member)

/-- Stripping cuts white space off the end. -/
theorem exists_stripRight_append (t : Text) :
    ∃ tail, isBlank tail = true ∧ t = stripRight t ++ tail := by
  refine ⟨(t.reverse.takeWhile isBlankChar).reverse, ?_, ?_⟩
  · rw [isBlank, List.all_reverse]
    exact all_takeWhile isBlankChar t.reverse
  · rw [stripRight, ← List.reverse_append, List.takeWhile_append_dropWhile, List.reverse_reverse]

theorem stripRight_prefix (t : Text) : stripRight t <+: t := by
  obtain ⟨tail, _, whole⟩ := exists_stripRight_append t
  exact ⟨tail, whole.symm⟩

/-- White space behind does not count. -/
theorem stripRight_append_of_isBlank {blanks : Text} (blank : isBlank blanks = true) (t : Text) :
    stripRight (t ++ blanks) = stripRight t := by
  have around : ∀ c ∈ blanks.reverse, isBlankChar c = true := by simpa [isBlank] using blank
  unfold stripRight
  rw [List.reverse_append, List.dropWhile_append_of_pos around]

/-- What ends in something other than white space is kept, whatever stands before it. -/
theorem stripRight_append_solid (t : Text) {solid : Text} (filled : solid ≠ [])
    (none : ∀ c ∈ solid, isBlankChar c = false) : stripRight (t ++ solid) = t ++ solid := by
  unfold stripRight
  cases last : solid.reverse with
  | nil => simp_all
  | cons c rest =>
    have member : c ∈ solid := by
      rw [← List.mem_reverse, last]
      exact List.mem_cons_self
    rw [List.reverse_append, last, List.cons_append, List.dropWhile_cons_of_neg (by simp [none c member]),
      ← List.cons_append, ← last, ← List.reverse_append, List.reverse_reverse]

/-- What is written behind a text, with white space after it or not, follows the text when both are
stripped. -/
theorem exists_strip_append {t rest : Text} (solid : isBlank t = false)
    (none : ∀ c ∈ stripRight rest, isBlankChar c = false) :
    ∃ gap, isBlank gap = true ∧ strip (t ++ rest) = strip t ++ (gap ++ stripRight rest) := by
  obtain ⟨after, blankAfter, whole⟩ := exists_stripRight_append rest
  obtain ⟨between, blankBetween, apart⟩ := exists_stripRight_append (stripLeft t)
  have cut : strip (t ++ rest) = stripRight (stripLeft t ++ stripRight rest) := by
    rw [strip, stripLeft_append solid]
    nth_rewrite 1 [whole]
    rw [← List.append_assoc, stripRight_append_of_isBlank blankAfter]
  by_cases filled : stripRight rest = []
  · refine ⟨[], rfl, ?_⟩
    rw [cut, filled, List.append_nil, List.append_nil, List.append_nil]
    rfl
  · refine ⟨between, blankBetween, ?_⟩
    rw [cut, stripRight_append_solid _ filled none, ← List.append_assoc]
    exact congrArg (· ++ stripRight rest) apart

/-- A key at the end is kept, whatever stands before it. -/
theorem stripRight_append_word (t : Text) {word : Text} (isWord : isWord word = true) :
    stripRight (t ++ word) = t ++ word := by
  refine stripRight_append_solid t ?_ fun c member =>
    isBlankChar_eq_false_of_isWordChar (isWordChar_of_mem isWord member)
  rintro rfl
  simp [Text.isWord] at isWord

theorem isBlank_word {word : Text} (isWord : isWord word = true) : isBlank word = false := by
  cases word with
  | nil => simp [Text.isWord] at isWord
  | cons c rest =>
    have solid := isBlankChar_eq_false_of_isWordChar (isWordChar_of_mem isWord List.mem_cons_self)
    simp [isBlank, solid]

/-- Where no white space stands there is none to strip. -/
theorem stripLeft_solid {t : Text} (none : ∀ c ∈ t, isBlankChar c = false) : stripLeft t = t := by
  cases t with
  | nil => rfl
  | cons c rest => simp [stripLeft, none c List.mem_cons_self]

theorem stripLeft_word {word : Text} (isWord : isWord word = true) : stripLeft word = word :=
  stripLeft_solid fun _ member => isBlankChar_eq_false_of_isWordChar (isWordChar_of_mem isWord member)

theorem strip_word {word : Text} (isWord : isWord word = true) : strip word = word := by
  rw [strip, stripLeft_word isWord]
  exact stripRight_append_word [] isWord

/-- An indented key is found where the white space ends. -/
theorem stripLeft_indented {word : Text} (isWord : isWord word = true) (indent : Int) (rest : Text) :
    stripLeft (spaces indent ++ word ++ rest) = word ++ rest := by
  cases word with
  | nil => simp [Text.isWord] at isWord
  | cons c others =>
    have solid := isBlankChar_eq_false_of_isWordChar (isWordChar_of_mem isWord List.mem_cons_self)
    rw [List.append_assoc, List.cons_append, stripLeft_append_cons (isBlank_spaces indent) solid]

theorem leadingBlanks_append_word {blanks word : Text} (blank : isBlank blanks = true)
    (isWord : isWord word = true) (rest : Text) :
    leadingBlanks (blanks ++ word ++ rest) = blanks.length := by
  cases word with
  | nil => simp [Text.isWord] at isWord
  | cons c others =>
    have solid := isBlankChar_eq_false_of_isWordChar (isWordChar_of_mem isWord List.mem_cons_self)
    rw [List.append_assoc, List.cons_append, leadingBlanks_append_cons blank solid]

theorem leadingBlanks_indented {word : Text} (isWord : isWord word = true) (indent : Int)
    (rest : Text) : leadingBlanks (spaces indent ++ word ++ rest) = indent.toNat := by
  rw [leadingBlanks_append_word (isBlank_spaces indent) isWord, length_spaces]

/-- The indentation of a text is the white space that it begins with. -/
theorem take_leadingBlanks (t : Text) : t.take (leadingBlanks t) = t.takeWhile isBlankChar :=
  (List.prefix_iff_eq_take.1 (List.takeWhile_prefix isBlankChar)).symm

theorem isBlank_take_leadingBlanks (t : Text) : isBlank (t.take (leadingBlanks t)) = true := by
  rw [take_leadingBlanks]
  exact all_takeWhile isBlankChar t

/-- A key in front is not white space. -/
theorem stripLeft_word_append {word : Text} (isWord : isWord word = true) (rest : Text) :
    stripLeft (word ++ rest) = word ++ rest :=
  stripLeft_indented isWord 0 rest

theorem afterDash_of_head? {t : Text} (other : t.head? ≠ some '-') : afterDash t = t := by
  unfold afterDash
  split
  next => exact absurd rfl other
  next => rfl

/-- A key in front is no dash. -/
theorem afterDash_word_append {word : Text} (isWord : isWord word = true) (rest : Text) :
    afterDash (word ++ rest) = word ++ rest := by
  apply afterDash_of_head?
  cases word with
  | nil => simp [Text.isWord] at isWord
  | cons c others =>
    have start := (isWord_cons.1 isWord).1
    rw [List.cons_append, List.head?_cons, Ne, Option.some.injEq]
    rintro rfl
    simp [isWordStart] at start

/-- Stripped of white space, a key with a colon behind it. -/
theorem strip_named {blanks tail word : Text} (blank : isBlank blanks = true)
    (blankTail : isBlank tail = true) (isWord : isWord word = true) :
    strip (blanks ++ word ++ ':' :: tail) = word ++ [':'] := by
  have colon : stripRight (word ++ [':']) = word ++ [':'] :=
    stripRight_append_solid word (by simp) (by simp [isBlankChar])
  have apart : word ++ ':' :: tail = word ++ [':'] ++ tail := by simp
  rw [strip, List.append_assoc, stripLeft_append_of_isBlank blank, stripLeft_word_append isWord, apart,
    stripRight_append_of_isBlank blankTail, colon]

/-- Stripped of white space, a key between a dash and a colon. -/
theorem strip_dashed {blanks tail word : Text} (blank : isBlank blanks = true)
    (blankTail : isBlank tail = true) :
    strip (blanks ++ '-' :: ' ' :: word ++ ':' :: tail) = '-' :: ' ' :: word ++ [':'] := by
  have colon : stripRight ('-' :: ' ' :: word ++ [':']) = '-' :: ' ' :: word ++ [':'] :=
    stripRight_append_solid ('-' :: ' ' :: word) (by simp) (by simp [isBlankChar])
  have apart : '-' :: ' ' :: word ++ ':' :: tail = '-' :: ' ' :: word ++ [':'] ++ tail := by simp
  have dash : stripLeft ('-' :: ' ' :: word ++ [':'] ++ tail) = '-' :: ' ' :: word ++ [':'] ++ tail := by
    simp [stripLeft, isBlankChar]
  rw [strip, List.append_assoc, stripLeft_append_of_isBlank blank, apart, dash,
    stripRight_append_of_isBlank blankTail, colon]

/-- The longest key at the front ends where no further character of a key follows. -/
theorem takeWord?_word_append {word rest : Text} (isWord : isWord word = true)
    (ends : ∀ c, rest.head? = some c → isWordChar c = false) :
    takeWord? (word ++ rest) = some (word, rest) := by
  have stopped : rest.takeWhile isWordChar = [] ∧ rest.dropWhile isWordChar = rest := by
    cases rest with
    | nil => exact ⟨rfl, rfl⟩
    | cons c rest => simp [ends c rfl]
  cases word with
  | nil => simp [Text.isWord] at isWord
  | cons c others =>
    obtain ⟨start, chars⟩ := isWord_cons.1 isWord
    rw [List.cons_append, takeWord?, if_pos start, List.takeWhile_append_of_pos chars,
      List.dropWhile_append_of_pos chars, stopped.1, stopped.2, List.append_nil]

end Text
end GraphCompletion
