import GraphCompletion.Insertion
import GraphCompletion.Suggestion
import GraphCompletion.Proofs.Governing
import GraphCompletion.Proofs.Splice

/-!
# Inserted lines

What the line scans read off the lines that an accepted suggestion brings: how deep each is indented,
which of them opens an item and which heads a collection. That the keys of the grammar are
identifiers is all this needs.
-/
namespace GraphCompletion

variable {key collection : Text} {area : Section} {indent : Int}

/-- A line names the key that it holds with a colon, whether or not a dash stands before it. -/
theorem Line.key?_of_strip {line : Text} (isWord : Text.isWord key = true)
    (cut : Text.afterDash (Text.strip line) = key ++ [':']) : Line.key? line = some key := by
  have read : Text.takeWord? (key ++ [':']) = some (key, [':']) :=
    Text.takeWord?_word_append isWord (by rintro c ⟨⟩; decide)
  have colon : Text.stripLeft [':'] = [':'] := by decide
  unfold Line.key?
  rw [cut, read]
  simp [colon]

namespace Label

/-- Taking apart the label of an opening key gives back the key. -/
theorem ofText_opening (isWord : Text.isWord key = true) :
    ofText ("- ".toList ++ key) = ⟨"- ".toList ++ key, "- ".toList ++ key, true, key⟩ := by
  have trimmed : Text.strip ("- ".toList ++ key) = "- ".toList ++ key :=
    Text.stripRight_append_word "- " isWord
  unfold ofText
  rw [trimmed]
  simp [Text.isBlankChar, Text.strip_word isWord]

/-- A label that is a key once it is stripped does not open an item. -/
theorem ofText_of_strip {raw : Text} (isWord : Text.isWord key = true) (trimmed : Text.strip raw = key) :
    ofText raw = ⟨raw, key, false, key⟩ := by
  cases key with
  | nil => simp [Text.isWord] at isWord
  | cons c rest =>
    -- A key does not begin with a dash.
    have start := (Text.isWord_cons.1 isWord).1
    unfold ofText
    simp only [trimmed]
    split
    next same =>
      simp only [List.cons.injEq] at same
      rw [same.1] at start
      simp [Text.isWordStart] at start
    next => rfl

/-- Taking apart the label of a key gives back the key. -/
theorem ofText_word (isWord : Text.isWord key = true) : ofText key = ⟨key, key, false, key⟩ :=
  ofText_of_strip isWord (Text.strip_word isWord)

/-- Taking apart the label of a following key gives back the key. -/
theorem ofText_following (isWord : Text.isWord key = true) :
    ofText ("  ".toList ++ key) = ⟨"  ".toList ++ key, key, false, key⟩ := by
  refine ofText_of_strip isWord ?_
  rw [Text.strip, Text.stripLeft_append_of_isBlank (by decide), Text.stripLeft_word isWord]
  exact Text.stripRight_append_word [] isWord

end Label

namespace Suggestion

/-- An item's key is offered as the key that opens an item, or as one that the section's items have. -/
theorem mem_itemKeys {source : SuggestionSource} {typed label : Text}
    (member : label ∈ itemKeys source area typed) :
    label = "- ".toList ++ startKey (source.spec.itemSpec? area) area ∨
      ∃ key ∈ keysOf (source.spec.itemSpec? area), label = "  ".toList ++ key := by
  unfold itemKeys at member
  rcases List.mem_append.1 member with opening | following
  · left
    split at opening
    · simpa using opening
    · simp at opening
  · right
    obtain ⟨key, matching, rfl⟩ := List.mem_map.1 following
    refine ⟨key, ?_, rfl⟩
    have continues : key ∈ continuationKeys (source.spec.itemSpec? area) area source.itemKeys := by
      split at matching
      · exact (List.mem_filter.1 matching).1
      · simp at matching
    unfold continuationKeys at continues
    split at continues
    · simp at continues
    · exact (List.mem_filter.1 continues).1

theorem mem_keysOf_of_mem_nextKey {spec : Option ItemSpec} {used : List Text} {typed : Text}
    (member : key ∈ nextKey spec used typed) : key ∈ keysOf spec :=
  (List.mem_filter.1 (List.mem_filter.1 (List.mem_of_mem_take member)).1).1

end Suggestion

namespace Spec

/-- Every key that the grammar opens an item with is an identifier. -/
def HasWordStarts (spec : Spec) : Prop :=
  ∀ area item key, spec.itemSpec? area = some item → item.startKey = some key →
    Text.isWord key = true

theorem HasWordStarts.isWord_startKeyText {spec : Spec} (starts : spec.HasWordStarts)
    (collection : Text) : Text.isWord (Insertion.startKeyText spec collection) = true := by
  unfold Insertion.startKeyText Spec.startKeyOf Spec.itemSpecOf
  cases start : (if collection = "nodes".toList then spec.node.getD .defaultNode
      else spec.link.getD .defaultLink).startKey with
  | none => rfl
  | some key =>
    rw [Option.getD_some]
    split at start
    · exact starts .nodes _ key rfl start
    · exact starts .links _ key rfl start

/-- Every key that the grammar offers or opens an item with is an identifier. -/
structure HasWordKeys (spec : Spec) : Prop where
  offered : ∀ area item, spec.itemSpec? area = some item →
    ∀ key ∈ item.offeredKeys, Text.isWord key = true
  start : ∀ area item key, spec.itemSpec? area = some item →
    item.startKey = some key → Text.isWord key = true

namespace HasWordKeys

variable {spec : Spec}

theorem isWord_startKey (words : spec.HasWordKeys) (area : Section) :
    Text.isWord (Suggestion.startKey (spec.itemSpec? area) area) = true := by
  unfold Suggestion.startKey
  split
  next first rest found =>
    obtain ⟨item, given, start⟩ := Option.bind_eq_some_iff.1 found
    exact words.start area item _ given start
  next =>
    split <;> decide

theorem isWord_startKeyText (words : spec.HasWordKeys) (collection : Text) :
    Text.isWord (Insertion.startKeyText spec collection) = true :=
  HasWordStarts.isWord_startKeyText words.start collection

theorem isWord_of_mem_keysOf (words : spec.HasWordKeys) {area : Section}
    (known : key ∈ Suggestion.keysOf (spec.itemSpec? area)) : Text.isWord key = true := by
  unfold Suggestion.keysOf at known
  cases given : spec.itemSpec? area with
  | none => simp [given] at known
  | some item =>
    simp only [given, Option.map_some, Option.getD_some] at known
    exact words.offered area item given key known

/-- A label of an item's key is an identifier after a dash, or after two blanks. -/
theorem exists_key_of_mem_offered {source : SuggestionSource} {context : EditingContext} {label : Text}
    (words : source.spec.HasWordKeys) (asked : context.kind = .itemKey)
    (offered : label ∈ Suggestion.offered context source) :
    ∃ key, Text.isWord key = true ∧
      (label = "- ".toList ++ key ∨ label = "  ".toList ++ key) := by
  simp only [Suggestion.offered, asked] at offered
  rcases Suggestion.mem_itemKeys offered with opening | ⟨key, known, following⟩
  · exact ⟨_, words.isWord_startKey context.area, .inl opening⟩
  · exact ⟨key, words.isWord_of_mem_keysOf known, .inr following⟩

end HasWordKeys

/-- The default grammar's own keys are identifiers. -/
theorem hasWordKeys_default : Spec.default.HasWordKeys := by
  have either {area : Section} {item : ItemSpec} (given : Spec.default.itemSpec? area = some item) :
      item = .defaultNode ∨ item = .defaultLink := by
    cases area <;> simp_all [itemSpec?, default]
  constructor
  · intro area item given
    rcases either given with rfl | rfl <;> decide
  · intro area item key given start
    rcases either given with rfl | rfl <;> cases start <;> decide

end Spec

namespace Insertion

/-- A line that names a key. -/
def keyLine (indent : Int) (key : Text) : Text := Text.spaces indent ++ key ++ ": "

/-- A line that heads a collection. -/
def headerLine (indent : Int) (collection : Text) : Text := Text.spaces indent ++ collection ++ ":"

theorem indent_itemLine (indent : Int) (key : Text) :
    Line.indent (itemLine indent key) = indent.toNat := by
  have dash : itemLine indent key = Text.spaces indent ++ '-' :: (' ' :: key ++ ": ") := by
    simp [itemLine]
  rw [Line.indent, dash, Text.leadingBlanks_append_cons (Text.isBlank_spaces indent) (by decide),
    Text.length_spaces]

theorem isDash_itemLine (indent : Int) (key : Text) : Line.isDash (itemLine indent key) = true := by
  have dash : itemLine indent key = Text.spaces indent ++ '-' :: (' ' :: key ++ ": ") := by
    simp [itemLine]
  rw [Line.isDash, Text.head?_strip, dash,
    Text.stripLeft_append_cons (Text.isBlank_spaces indent) (by decide)]
  rfl

theorem indent_keyLine (isWord : Text.isWord key = true) (indent : Int) :
    Line.indent (keyLine indent key) = indent.toNat :=
  Text.leadingBlanks_indented isWord indent ": "

/-- Behind white space a collection's word and a colon open that collection. -/
theorem ofHeader?_of_blank {blanks : Text} (blank : Text.isBlank blanks = true)
    (member : (collection, area) ∈ Section.headers) :
    Scope.ofHeader? (blanks ++ collection ++ ":") = some ⟨area, blanks.length⟩ :=
  Scope.ofHeader?_of_spelled blank (rfl : Text.isBlank [] = true) (rfl : Text.isBlank [] = true) member

/-- A line with nothing but a collection's word and a colon opens that collection. -/
theorem ofHeader?_headerLine (member : (collection, area) ∈ Section.headers) (indent : Int) :
    Scope.ofHeader? (headerLine indent collection) = some ⟨area, indent.toNat⟩ := by
  rw [headerLine, ofHeader?_of_blank (Text.isBlank_spaces indent) member, Text.length_spaces]

theorem ofHeader?_keyLine (isWord : Text.isWord key = true)
    (other : key ∉ Section.headers.map Prod.fst) (indent : Int) :
    Scope.ofHeader? (keyLine indent key) = none := by
  have first : Text.stripLeft (keyLine indent key) = key ++ ':' :: [' '] :=
    Text.stripLeft_indented isWord indent ": "
  exact Scope.ofHeader?_eq_none_of_key isWord other first

/-- Behind white space a key that is written with a colon and a blank is the key and the colon. -/
theorem afterDash_strip_named {blanks : Text} (blank : Text.isBlank blanks = true)
    (isWord : Text.isWord key = true) :
    Text.afterDash (Text.strip (blanks ++ key ++ ": ")) = key ++ [':'] := by
  rw [show ": ".toList = ':' :: [' '] from rfl, Text.strip_named blank (by decide) isWord,
    Text.afterDash_word_append isWord]

theorem afterDash_strip_keyLine (isWord : Text.isWord key = true) (indent : Int) :
    Text.afterDash (Text.strip (keyLine indent key)) = key ++ [':'] :=
  afterDash_strip_named (Text.isBlank_spaces indent) isWord

/-- Behind its dash an item's line is the key and a colon. -/
theorem afterDash_strip_itemLine (isWord : Text.isWord key = true) (indent : Int) :
    Text.afterDash (Text.strip (itemLine indent key)) = key ++ [':'] := by
  have dashed : itemLine indent key = Text.spaces indent ++ '-' :: ' ' :: key ++ ':' :: [' '] := by
    simp [itemLine]
  rw [dashed, Text.strip_dashed (Text.isBlank_spaces indent) (by decide)]
  exact Text.stripLeft_indented isWord 1 [':']

theorem key?_keyLine (isWord : Text.isWord key = true) (indent : Int) :
    Line.key? (keyLine indent key) = some key :=
  Line.key?_of_strip isWord (afterDash_strip_keyLine isWord indent)

theorem key?_itemLine (isWord : Text.isWord key = true) (indent : Int) :
    Line.key? (itemLine indent key) = some key :=
  Line.key?_of_strip isWord (afterDash_strip_itemLine isWord indent)

/-- The first line of an inserted collection names it. -/
theorem key?_headerLine (isWord : Text.isWord key = true) (indent : Int) :
    Line.key? (headerLine indent key) = some key := by
  refine Line.key?_of_strip isWord ?_
  rw [headerLine, show ":".toList = ':' :: [] from rfl,
    Text.strip_named (Text.isBlank_spaces indent) rfl isWord, Text.afterDash_word_append isWord]

theorem newline_not_mem_indented (isWord : Text.isWord key = true) (indent : Int) :
    '\n' ∉ Text.spaces indent ++ key := by
  have own : '\n' ∉ key := Text.not_mem_word isWord (by decide)
  simp [Text.spaces, List.mem_replicate, own]

theorem newline_not_mem_itemLine (isWord : Text.isWord key = true) (indent : Int) :
    '\n' ∉ itemLine indent key := by
  have own : '\n' ∉ key := Text.not_mem_word isWord (by decide)
  simp [itemLine, Text.spaces, List.mem_replicate, own]

/-- The line that opens an item is one line. -/
theorem ofText_itemLine (isWord : Text.isWord key = true) (indent : Int) :
    Lines.ofText (itemLine indent key) = [itemLine indent key] :=
  Text.splitOn_of_not_mem (newline_not_mem_itemLine isWord indent)

theorem newline_not_mem_keyLine (isWord : Text.isWord key = true) (indent : Int) :
    '\n' ∉ keyLine indent key := by
  have own := newline_not_mem_indented isWord indent
  simp only [keyLine, List.mem_append] at own ⊢
  simp [own]

theorem ofText_keyLine (isWord : Text.isWord key = true) (indent : Int) :
    Lines.ofText (keyLine indent key) = [keyLine indent key] :=
  Text.splitOn_of_not_mem (newline_not_mem_keyLine isWord indent)

theorem newline_not_mem_headerLine (isWord : Text.isWord collection = true) (indent : Int) :
    '\n' ∉ headerLine indent collection := by
  have own := newline_not_mem_indented isWord indent
  simp only [headerLine, List.mem_append] at own ⊢
  simp [own]

/-- A collection opens with its header and the line of its first item. -/
theorem collectionText_eq (collection : Text) (spec : Spec) (indentSize keyIndent : Int) :
    collectionText collection spec indentSize keyIndent =
      headerLine keyIndent collection ++
        '\n' :: itemLine (keyIndent + indentSize) (startKeyText spec collection) := by
  simp [collectionText, headerLine]

/-- The text that opens a collection is two lines. -/
theorem ofText_collectionText {spec : Spec} (words : spec.HasWordKeys)
    (isWord : Text.isWord collection = true) (indentSize keyIndent : Int) :
    Lines.ofText (collectionText collection spec indentSize keyIndent) =
      [headerLine keyIndent collection,
        itemLine (keyIndent + indentSize) (startKeyText spec collection)] := by
  have header := newline_not_mem_headerLine isWord keyIndent
  have item := newline_not_mem_itemLine (words.isWord_startKeyText collection)
    (keyIndent + indentSize)
  rw [collectionText_eq, Lines.ofText, Text.splitOn_append_cons, Text.splitOn_of_not_mem header,
    Text.splitOn_of_not_mem item, List.singleton_append]

end Insertion
end GraphCompletion
