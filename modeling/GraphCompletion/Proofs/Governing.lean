import GraphCompletion.Section
import GraphCompletion.Proofs.Nearest
import GraphCompletion.Proofs.Words

/-!
# Governing headers

A line is governed by a header line, not by a kind of collection: collections of one kind nest, and
two headers of one kind are two collections. `Scope.Governs` names that header line, and the scan of
`Scope.governing` is shown to give its section and indentation. Which lines are headers is read off
their first word.
-/
namespace GraphCompletion

namespace Scope

variable {lines : List Text} {index indent : Int} {scope other : Scope} {h i : Nat} {line : Text}

/-- The line at an index is a header and opens this scope. -/
def HeaderAt (lines : List Text) (scope : Scope) (i : Nat) : Prop :=
  ∃ line, lines[i]? = some line ∧ ofHeader? line = some scope

/-- A header line that governs whatever stands below it at this indentation, and the line at `index`
itself at any. -/
def Reaches (lines : List Text) (index indent : Int) (i : Nat) : Prop :=
  ∃ scope, HeaderAt lines scope i ∧ ((scope.indent : Int) < indent ∨ (i : Int) = index)

/-- The header line `h` governs the line at `index` for an indentation: of the headers at or above
that line it is the nearest one that reaches it. -/
structure Governs (lines : List Text) (index indent : Int) (h : Nat) (scope : Scope) : Prop where
  header : HeaderAt lines scope h
  nearest : Lines.Nearest index (Reaches lines index indent) h

/-- The header line `h` governs a line of the document, seen from that line's own indentation. -/
def GovernsLine (lines : List Text) (index : Nat) (h : Nat) (scope : Scope) : Prop :=
  Governs lines index (Line.indent (Lines.get lines index)) h scope

theorem HeaderAt.unique (first : HeaderAt lines scope i) (second : HeaderAt lines other i) :
    scope = other := by
  obtain ⟨line, held, found⟩ := first
  obtain ⟨line', held', found'⟩ := second
  simp_all

theorem Governs.unique {h' : Nat} (first : Governs lines index indent h scope)
    (second : Governs lines index indent h' other) : h = h' ∧ scope = other := by
  obtain rfl := first.nearest.unique second.nearest
  exact ⟨rfl, first.header.unique second.header⟩

theorem exists_governs?_iff :
    (∃ line, lines[i]? = some line ∧ (governs? index indent (line, i)).isSome = true) ↔
      Reaches lines index indent i := by
  constructor
  · rintro ⟨line, held, some⟩
    obtain ⟨scope, found⟩ := Option.isSome_iff_exists.1 some
    obtain ⟨header, reaches⟩ := Option.filter_eq_some_iff.1 found
    exact ⟨scope, ⟨line, held, header⟩, by simpa using reaches⟩
  · rintro ⟨scope, ⟨line, held, header⟩, reaches⟩
    refine ⟨line, held, ?_⟩
    unfold governs?
    rw [header, Option.filter_some, if_pos (by simpa using reaches)]
    rfl

/-- The index of the header line that governs the line at `index` for an indentation. -/
def governingLine? (lines : List Text) (index indent : Int) : Option Nat :=
  ((Lines.upTo lines index).find? fun entry => (governs? index indent entry).isSome).map (·.2)

theorem governingLine?_eq_some_iff :
    governingLine? lines index indent = some h ↔ ∃ scope, Governs lines index indent h scope := by
  have scanned : governingLine? lines index indent = some h ↔
      Lines.Nearest index (Reaches lines index indent) h :=
    Lines.map_find?_upTo_eq_some_iff fun j => exists_governs?_iff.symm
  rw [scanned]
  constructor
  · intro nearest
    obtain ⟨scope, header, _⟩ := nearest.holds
    exact ⟨scope, header, nearest⟩
  · rintro ⟨scope, governs⟩
    exact governs.nearest

/-- The scan gives the scope of the governing header. -/
theorem Governs.governing_eq (governs : Governs lines index indent h scope) :
    governing lines index indent = scope := by
  obtain ⟨⟨line, i⟩, found, rfl⟩ :=
    Option.map_eq_some_iff.1 (governingLine?_eq_some_iff.2 ⟨scope, governs⟩)
  obtain ⟨line', held, header⟩ := governs.header
  have same := (Lines.find?_upTo_eq_some_iff.1 found).1
  obtain ⟨_, other, reaches⟩ := governs.nearest.holds
  obtain rfl := governs.header.unique other
  obtain rfl : line = line' := by simp_all
  unfold governing
  rw [Lines.findSome?_upTo_eq_bind, found, Option.bind_some]
  unfold governs?
  rw [header, Option.filter_some, if_pos (by simpa using reaches)]
  rfl

/-- Outside the root there is a header that governs. -/
theorem exists_governs (inside : (governing lines index indent).area ≠ .root) :
    ∃ h, Governs lines index indent h (governing lines index indent) := by
  cases outcome : governingLine? lines index indent with
  | none =>
    have missed := Option.map_eq_none_iff.1 outcome
    unfold governing at inside
    rw [Lines.findSome?_upTo_eq_bind, missed] at inside
    exact absurd rfl inside
  | some h =>
    obtain ⟨scope, governs⟩ := governingLine?_eq_some_iff.1 outcome
    rw [governs.governing_eq]
    exact ⟨h, governs⟩

/-- A header is one of the three words, a colon, and white space around them. -/
theorem ofHeader?_eq_some (header : ofHeader? line = some scope) :
    ∃ word rest tail, (word, scope.area) ∈ Section.headers ∧ Text.stripLeft line = word ++ rest ∧
      Text.stripLeft rest = ':' :: tail ∧ Text.isBlank tail = true ∧
      scope.indent = Line.indent line := by
  obtain ⟨⟨word, area⟩, member, found⟩ := List.exists_of_findSome?_eq_some header
  cases cut : Text.after? word (Text.stripLeft line) with
  | none => simp [cut] at found
  | some rest =>
    have same : word ++ rest = Text.stripLeft line := List.append_eq_of_isPrefixOf?_eq_some cut
    simp only [cut, Option.bind_eq_bind, Option.bind_some] at found
    split at found
    next tail colon =>
      split at found
      next blank =>
        simp only [Option.some.injEq] at found
        subst found
        exact ⟨word, rest, tail, member, same.symm, colon, blank, rfl⟩
      next => simp at found
    next => simp at found

@[simp] theorem ofHeader?_nil : ofHeader? [] = none := rfl

/-- A blank line is no header. -/
theorem ofHeader?_of_isBlank (blank : Line.isBlank line = true) : ofHeader? line = none := by
  cases outcome : ofHeader? line with
  | none => rfl
  | some scope =>
    obtain ⟨word, rest, tail, member, cut, _⟩ := ofHeader?_eq_some outcome
    rw [(Text.stripLeft_eq_nil_iff line).2 blank] at cut
    obtain rfl := (List.append_eq_nil_iff.1 cut.symm).1
    simp [Section.headers] at member

theorem isCollection_of_ofHeader? (header : ofHeader? line = some scope) :
    scope.area.isCollection = true := by
  obtain ⟨word, _, _, member, _⟩ := ofHeader?_eq_some header
  simp only [Section.headers, List.mem_cons, Prod.mk.injEq, List.not_mem_nil, or_false] at member
  rcases member with ⟨_, area⟩ | ⟨_, area⟩ | ⟨_, area⟩ <;> rw [area] <;> rfl

theorem Governs.isCollection (governs : Governs lines index indent h scope) :
    scope.area.isCollection = true := by
  obtain ⟨_, _, header⟩ := governs.header
  exact isCollection_of_ofHeader? header

/-- The words that head a collection are keys. -/
theorem isWord_of_mem_headers {word : Text} {area : Section} (member : (word, area) ∈ Section.headers) :
    Text.isWord word = true := by
  simp only [Section.headers, List.mem_cons, Prod.mk.injEq, List.not_mem_nil, or_false] at member
  rcases member with ⟨rfl, _⟩ | ⟨rfl, _⟩ | ⟨rfl, _⟩ <;> decide

/-- White space, a word that heads a collection, white space, a colon and white space make a header. -/
theorem ofHeader?_of_spelled {before between behind word : Text} {area : Section}
    (blank : Text.isBlank before = true) (gap : Text.isBlank between = true)
    (rest : Text.isBlank behind = true) (member : (word, area) ∈ Section.headers) :
    ofHeader? (before ++ word ++ (between ++ ':' :: behind)) = some ⟨area, before.length⟩ := by
  have isWord := isWord_of_mem_headers member
  have stripped : Text.stripLeft (before ++ word ++ (between ++ ':' :: behind)) =
      word ++ (between ++ ':' :: behind) := by
    rw [List.append_assoc, Text.stripLeft_append_of_isBlank blank, Text.stripLeft_word_append isWord]
  have colon : Text.stripLeft (between ++ ':' :: behind) = ':' :: behind :=
    Text.stripLeft_append_cons gap (by decide) behind
  have depth : Line.indent (before ++ word ++ (between ++ ':' :: behind)) = before.length :=
    Text.leadingBlanks_append_word blank isWord _
  unfold ofHeader?
  rw [stripped, depth]
  simp only [Section.headers, List.mem_cons, Prod.mk.injEq, List.not_mem_nil, or_false] at member
  rcases member with ⟨rfl, rfl⟩ | ⟨rfl, rfl⟩ | ⟨rfl, rfl⟩ <;>
    simp [Section.headers, Text.after?, List.isPrefixOf?, colon, rest]

/-- A line that begins with a key which heads no collection is no header. -/
theorem ofHeader?_eq_none_of_key {key rest : Text} (isWord : Text.isWord key = true)
    (other : key ∉ Section.headers.map Prod.fst) (first : Text.stripLeft line = key ++ ':' :: rest) :
    ofHeader? line = none := by
  cases outcome : ofHeader? line with
  | none => rfl
  | some scope =>
    obtain ⟨word, behind, tail, member, cut, colon, _⟩ := ofHeader?_eq_some outcome
    -- Both ways of reading the line take its longest key, so the two keys are one.
    have written : Text.takeWord? (key ++ ':' :: rest) = some (key, ':' :: rest) :=
      Text.takeWord?_word_append isWord (by rintro c ⟨⟩; decide)
    have read : Text.takeWord? (word ++ behind) = some (word, behind) := by
      refine Text.takeWord?_word_append (isWord_of_mem_headers member) ?_
      intro c first
      cases behind with
      | nil => simp at first
      | cons d others =>
        simp only [List.head?_cons, Option.some.injEq] at first
        subst first
        cases blank : Text.isBlankChar d with
        | true =>
          by_contra wordChar
          simp [Text.isBlankChar_eq_false_of_isWordChar (by simpa using wordChar)] at blank
        | false =>
          have colon_first : d = ':' := by
            simp only [Text.stripLeft, List.dropWhile_cons, blank] at colon
            simpa using congrArg List.head? colon
          rw [colon_first]
          decide
    rw [first] at cut
    rw [cut, read] at written
    simp only [Option.some.injEq, Prod.mk.injEq] at written
    rw [← written.1] at other
    exact absurd (List.mem_map_of_mem member) other

/-- A dash line is no header. -/
theorem isDash_eq_false_of_ofHeader? (header : ofHeader? line = some scope) :
    Line.isDash line = false := by
  obtain ⟨word, rest, _, member, cut, _⟩ := ofHeader?_eq_some header
  have word_head : word.head? = some '-' → False := by
    simp only [Section.headers, List.mem_cons, Prod.mk.injEq, List.not_mem_nil, or_false] at member
    rcases member with ⟨rfl, _⟩ | ⟨rfl, _⟩ | ⟨rfl, _⟩ <;> decide
  have isWord := isWord_of_mem_headers member
  unfold Line.isDash
  rw [Text.head?_strip, cut]
  cases word with
  | nil => simp [Text.isWord] at isWord
  | cons c others =>
    simp only [List.head?_cons, Option.some.injEq] at word_head
    simpa using word_head

theorem ofHeader?_of_isDash (dash : Line.isDash line = true) : ofHeader? line = none := by
  cases header : ofHeader? line with
  | none => rfl
  | some scope => simp [isDash_eq_false_of_ofHeader? header] at dash

end Scope
end GraphCompletion
