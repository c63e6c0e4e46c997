import GraphCompletion.Proofs.Caret
import GraphCompletion.Proofs.Scans
import GraphCompletion.Proofs.Splice

/-!
# Nested documents

A document may be put inside another one, its lines indented by some depth. Inside a collection of
its own a caret does not notice: every scan that gives its context ends at a line of the inner
document, and all indentations that are compared have grown by the same depth.
-/
namespace GraphCompletion

namespace Text

theorem isBlankChar_of_mem_spaces {n : Int} {c : Char} (member : c ∈ spaces n) :
    isBlankChar c = true := by
  obtain ⟨_, rfl⟩ := List.mem_replicate.1 member
  decide

theorem stripLeft_spaces_append (n : Int) (t : Text) : stripLeft (spaces n ++ t) = stripLeft t :=
  stripLeft_append_of_isBlank (isBlank_spaces n) t

theorem strip_spaces_append (n : Int) (t : Text) : strip (spaces n ++ t) = strip t := by
  rw [strip, stripLeft_spaces_append, strip]

theorem isBlank_spaces_append (n : Int) (t : Text) : isBlank (spaces n ++ t) = isBlank t := by
  have blank := isBlank_spaces n
  unfold isBlank at blank ⊢
  rw [List.all_append, blank, Bool.true_and]

theorem leadingBlanks_spaces_append (depth : Nat) (t : Text) :
    leadingBlanks (spaces depth ++ t) = leadingBlanks t + depth := by
  unfold leadingBlanks
  rw [List.takeWhile_append_of_pos fun _ member => isBlankChar_of_mem_spaces member,
    List.length_append, length_spaces, Int.toNat_natCast, Nat.add_comm]

theorem take_spaces (n depth : Nat) : (spaces depth).take n = spaces (min n depth : Nat) := by
  rw [spaces, spaces, List.take_replicate, Int.toNat_natCast, Int.toNat_natCast]

/-- Left of a caret that is moved right by the depth stands the same text, if it is stripped. -/
theorem strip_take_spaces_append (depth : Nat) (column : Int) (line : Text) :
    strip ((spaces depth ++ line).take
        (Lines.clampColumn (column + depth) (spaces depth ++ line) - 1).toNat) =
      strip (line.take (Lines.clampColumn column line - 1).toNat) := by
  have length : (spaces depth ++ line).length = depth + line.length := by simp
  rw [List.take_append, length_spaces, Int.toNat_natCast]
  simp only [Lines.clampColumn, length]
  by_cases left : column < 1
  · have none : (max 1 (min column (line.length + 1)) - 1).toNat = 0 := by omega
    have few : (max 1 (min (column + depth) (↑(depth + line.length) + 1)) - 1).toNat - depth = 0 := by
      omega
    rw [none, few, take_spaces, strip_spaces_append]
  · have whole : depth ≤ (max 1 (min (column + depth) (↑(depth + line.length) + 1)) - 1).toNat := by
      omega
    have same : (max 1 (min (column + depth) (↑(depth + line.length) + 1)) - 1).toNat - depth =
        (max 1 (min column (line.length + 1)) - 1).toNat := by omega
    rw [same, List.take_of_length_le (by simpa using whole), strip_spaces_append]

end Text

namespace Lines

/-- A document's lines, indented by a depth, between the lines of another document. -/
def nested (above inner below : List Text) (depth : Nat) : List Text :=
  above ++ inner.map (Text.spaces depth ++ ·) ++ below

variable {above inner below : List Text} {depth : Nat} {index : Int}

theorem get_nested {i : Nat} (inside : i < inner.length) :
    get (nested above inner below depth) (above.length + i) = Text.spaces depth ++ get inner i := by
  have held : (nested above inner below depth)[above.length + i]? =
      some (Text.spaces depth ++ get inner i) := by
    have own : inner[i]? = some (get inner i) := getElem?_eq_get inside
    rw [nested, List.append_assoc, List.getElem?_append_right (by omega), Nat.add_sub_cancel_left,
      List.getElem?_append_left (by simpa using inside), List.getElem?_map, own, Option.map_some]
  exact_mod_cast get_eq_of_getElem? held

/-- A scan meets the inner document's lines first, each at its new place and indentation. -/
theorem upTo_nested (bound : index < inner.length) :
    upTo (nested above inner below depth) (above.length + index) =
      (upTo inner index).map
        (fun entry => (Text.spaces depth ++ entry.1, entry.2 + above.length)) ++
          upTo above (above.length + index) := by
  have moved : upTo (inner.map (Text.spaces depth ++ ·)) index =
      (upTo inner index).map (Prod.map (Text.spaces depth ++ ·) id) := by
    rw [upTo, upTo, List.zipIdx_map, ← List.map_take, List.map_reverse]
  rw [nested, upTo_append_append above _ below (by simpa using bound), moved, List.map_map]
  rfl

/-- Content that a scan finds in the inner document it finds in the whole document. -/
theorem previousContent?_nested (above below : List Text) (depth : Nat)
    (bound : index < inner.length) {entry : Text × Nat}
    (found : previousContent? inner index = some entry) :
    previousContent? (nested above inner below depth) (above.length + index) =
      some (Text.spaces depth ++ entry.1, entry.2 + above.length) := by
  have same : (fun entry : Text × Nat => !Line.isBlank entry.1) ∘
      (fun entry : Text × Nat => (Text.spaces depth ++ entry.1, entry.2 + above.length)) =
        fun entry => !Line.isBlank entry.1 := by
    funext entry
    simp [Line.isBlank, Text.isBlank_spaces_append]
  unfold previousContent? at found ⊢
  rw [upTo_nested bound, List.find?_append, List.find?_map, same, found]
  rfl

end Lines

namespace Scope

variable {inner : List Text} {index : Int}

/-- The scope with its header indented further. -/
def deeper (depth : Nat) (scope : Scope) : Scope := { scope with indent := scope.indent + depth }

theorem ofHeader?_spaces_append (depth : Nat) (line : Text) :
    ofHeader? (Text.spaces depth ++ line) = (ofHeader? line).map (deeper depth) := by
  unfold ofHeader?
  rw [Text.stripLeft_spaces_append, List.map_findSome?]
  congr 1
  funext header
  simp only [Function.comp, Line.indent, Text.leadingBlanks_spaces_append]
  cases Text.after? header.1 (Text.stripLeft line) with
  | none => rfl
  | some rest =>
    simp only [Option.bind_eq_bind, Option.bind_some]
    split
    · split <;> rfl
    · rfl

/-- A header of the inner document governs the same lines of it. -/
theorem governs?_nested (base depth : Nat) (index indent : Int) (entry : Text × Nat) :
    governs? (base + index) (indent + depth) (Text.spaces depth ++ entry.1, entry.2 + base) =
      (governs? index indent entry).map (deeper depth) := by
  unfold governs?
  rw [ofHeader?_spaces_append]
  cases ofHeader? entry.1 with
  | none => rfl
  | some scope =>
    have reach : ((scope.deeper depth).indent : Int) < indent + depth ↔ (scope.indent : Int) < indent := by
      simp only [deeper]
      omega
    have place : ((entry.2 + base : Nat) : Int) = base + index ↔ (entry.2 : Int) = index := by omega
    simp only [Option.map_some, Option.filter_some, reach, place]
    split <;> rfl

/-- A line that some header of the inner document governs is governed by it in the whole document. -/
theorem governing_nested (above below : List Text) (depth : Nat) (bound : index < inner.length)
    {indent : Int}
    (inside : (governing inner index indent).area ≠ .root) :
    governing (Lines.nested above inner below depth) (above.length + index) (indent + depth) =
      (governing inner index indent).deeper depth := by
  unfold governing at inside ⊢
  have moved : governs? (above.length + index) (indent + depth) ∘
      (fun entry => (Text.spaces depth ++ entry.1, entry.2 + above.length)) =
        Option.map (deeper depth) ∘ governs? index indent := by
    funext entry
    exact governs?_nested above.length depth index indent entry
  rw [Lines.upTo_nested bound, List.findSome?_append, List.findSome?_map, moved,
    ← List.map_findSome?]
  cases found : (Lines.upTo inner index).findSome? (governs? index indent) with
  | none =>
    rw [found] at inside
    exact absurd rfl inside
  | some scope => rfl

/-- A blank line inside a collection has content above it, its header at least. -/
theorem exists_previousContent? {i : Nat} {indent : Int} (inside : (governing inner i indent).area ≠ .root)
    (blank : Line.isBlank (Lines.get inner i) = true) :
    ∃ entry, Lines.previousContent? inner (i - 1 : Int) = some entry := by
  obtain ⟨h, governs⟩ := exists_governs inside
  obtain ⟨line, held, header⟩ := governs.header
  have solid : Line.isBlank line = false := by
    obtain ⟨word, rest, _, member, cut, _⟩ := ofHeader?_eq_some header
    have isWord := isWord_of_mem_headers member
    by_contra blankLine
    rw [Bool.not_eq_false] at blankLine
    rw [(Text.stripLeft_eq_nil_iff line).2 blankLine] at cut
    obtain ⟨rfl, _⟩ := List.append_eq_nil_iff.1 cut.symm
    simp [Text.isWord] at isWord
  have apart : h ≠ i := by
    rintro rfl
    rw [Lines.get_eq_of_getElem? held, solid] at blank
    simp at blank
  have reached := governs.nearest.reached
  rw [← Option.isSome_iff_exists]
  unfold Lines.previousContent?
  rw [List.find?_isSome]
  exact ⟨(line, h), Lines.mem_upTo_iff.2 ⟨held, by simp only; omega⟩, by simp [solid]⟩

end Scope

theorem Line.key?_spaces_append (depth : Nat) (line : Text) :
    Line.key? (Text.spaces depth ++ line) = Line.key? line := by
  unfold Line.key?
  rw [Text.strip_spaces_append]

/-- Whether a line goes on after an item's last key is told from its own collection. -/
theorem Item.continuesAfterLastKey_nested (above below : List Text) (depth : Nat)
    {inner : List Text} {i : Nat} (bound : i < inner.length)
    (previous : Line.isBlank (Lines.get inner i) = true →
      ∃ entry, Lines.previousContent? inner (i - 1 : Int) = some entry)
    (area : Section) (itemIndent : Int) :
    continuesAfterLastKey (Lines.nested above inner below depth) (above.length + i + 1) area
        (itemIndent + depth) =
      continuesAfterLastKey inner (i + 1) area itemIndent := by
  have place : max 0 ((above.length : Int) + i + 1 - 1) = above.length + i := by omega
  have place' : max 0 ((i : Int) + 1 - 1) = i := by omega
  unfold continuesAfterLastKey
  simp only [place, place', Lines.get_nested bound, Line.isBlank, Line.indent,
    Text.isBlank_spaces_append, Text.leadingBlanks_spaces_append]
  cases blank : Text.isBlank (Lines.get inner i) with
  | false => rfl
  | true =>
    obtain ⟨entry, found⟩ := previous blank
    have found' := Lines.previousContent?_nested above below depth (by omega) found
    rw [← Int.add_sub_assoc] at found'
    have deeper : decide (itemIndent + depth < (Text.leadingBlanks (Lines.get inner i) + depth : Nat)) =
        decide (itemIndent < Text.leadingBlanks (Lines.get inner i)) :=
      decide_eq_decide.2 (by omega)
    have within : decide (itemIndent + depth ≤ (Text.leadingBlanks entry.1 + depth : Nat)) =
        decide (itemIndent ≤ Text.leadingBlanks entry.1) := decide_eq_decide.2 (by omega)
    simp only [found, found', Line.key?_spaces_append, Text.leadingBlanks_spaces_append, deeper,
      within]
    rfl

namespace EditingContext

/-- The rules give the same context, since they compare indentations of the inner document only. -/
theorem ofLine_nested {above inner below : List Text} {depth i : Nat} (bound : i < inner.length)
    {indentSize : Int} {typed : Text} (inside : (ofLine inner (i + 1) indentSize typed).area ≠ .root) :
    ofLine (Lines.nested above inner below depth) (above.length + i + 1) indentSize typed =
      ofLine inner (i + 1) indentSize typed := by
  rw [area_ofLine, Int.add_sub_cancel] at inside
  have scope := Scope.governing_nested above below depth (by omega) inside
  -- Every indentation that the rules compare has grown by the depth.
  have goesOn := Item.continuesAfterLastKey_nested above below depth bound
    (Scope.exists_previousContent? inside)
    (Scope.governing inner i (Line.indent (Lines.get inner i))).area
    ((Scope.governing inner i (Line.indent (Lines.get inner i))).indent + indentSize)
  unfold ofLine
  simp only [Int.add_sub_cancel, Lines.get_nested bound, Line.indent,
    Text.leadingBlanks_spaces_append, Int.natCast_add] at scope goesOn inside ⊢
  rw [scope]
  generalize Scope.governing inner i (Text.leadingBlanks (Lines.get inner i)) = governing
    at goesOn inside ⊢
  have itemIndent : ((governing.deeper depth).indent : Int) + indentSize =
      governing.indent + indentSize + depth := by
    simp only [Scope.deeper]
    omega
  have area : (governing.deeper depth).area = governing.area := rfl
  simp only [itemIndent, area, inside, goesOn, false_and, if_false]
  simp only [Int.add_le_add_iff_right]

/-- Inside a collection of its own a document gives the caret the same context when it is indented by
some depth and put between other lines, with the caret moved along. -/
theorem resolve_nested {above inner below : List Text} {lineNumber column indentSize : Int}
    (single : ∀ line ∈ above ++ inner ++ below, '\n' ∉ line)
    (onLine : 1 ≤ lineNumber ∧ lineNumber ≤ inner.length)
    (inside : (resolve (Text.join ['\n'] inner) lineNumber column indentSize).area ≠ .root)
    (depth : Nat) :
    resolve (Text.join ['\n'] (Lines.nested above inner below depth)) (lineNumber + above.length)
        (column + depth) indentSize =
      resolve (Text.join ['\n'] inner) lineNumber column indentSize := by
  obtain ⟨i, rfl⟩ : ∃ i : Nat, lineNumber = i + 1 := ⟨(lineNumber - 1).toNat, by omega⟩
  have bound : i < inner.length := by omega
  have filled : inner ≠ [] := List.ne_nil_of_length_pos (by omega)
  have own : Lines.ofText (Text.join ['\n'] inner) = inner :=
    Lines.ofText_join filled fun line member => single line (by simp [member])
  have whole : Lines.ofText (Text.join ['\n'] (Lines.nested above inner below depth)) =
      Lines.nested above inner below depth := by
    refine Lines.ofText_join (by simp [Lines.nested, filled]) fun line member => ?_
    simp only [Lines.nested, List.mem_append, List.mem_map] at member
    rcases member with (member | ⟨line, member, rfl⟩) | member
    · exact single line (by simp [member])
    · have unbroken : '\n' ∉ line := single line (by simp [member])
      simpa [Text.spaces, List.mem_replicate] using unbroken
    · exact single line (by simp [member])
  have moved : (i : Int) + 1 + above.length = (above.length + i : Nat) + 1 := by omega
  have bound' : above.length + i < (Lines.nested above inner below depth).length := by
    simp only [Lines.nested, List.length_append, List.length_map]
    omega
  unfold resolve at inside ⊢
  rw [own, ofLines_of_lt bound] at inside
  rw [own, whole, moved, ofLines_of_lt bound, ofLines_of_lt bound', Int.natCast_add,
    Lines.get_nested bound, Text.strip_take_spaces_append, ofLine_nested bound inside]

/-- A caret right of the end of a blank line below a link's type, in a document that is put into a
node's collection. -/
theorem resolve_nested_below_type :
    let inner : List Text := ["links:", "  - from: a", "    type: t", "     "]
    let above : List Text := ["nodes:", "  - name: a"]
    let below : List Text := ["  - name: b", "links:"]
    (∀ line ∈ above ++ inner ++ below, '\n' ∉ line) ∧
      resolve (Text.join ['\n'] inner) 4 9 2 = ⟨.itemKey, .links, [], none⟩ ∧
      resolve (Text.join ['\n'] (Lines.nested above inner below 4)) 6 13 2 =
        ⟨.itemKey, .links, [], none⟩ := by
  intro inner above below
  have single : ∀ line ∈ above ++ inner ++ below, '\n' ∉ line := by decide
  have resolved : resolve (Text.join ['\n'] inner) 4 9 2 = ⟨.itemKey, .links, [], none⟩ := by
    decide
  have inside : (resolve (Text.join ['\n'] inner) 4 9 2).area ≠ .root := by simp [resolved]
  exact ⟨single, resolved, (resolve_nested single (by decide) inside 4).trans resolved⟩

end EditingContext
end GraphCompletion
