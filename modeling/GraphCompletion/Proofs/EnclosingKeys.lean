import GraphCompletion.Proofs.Caret
import GraphCompletion.Proofs.ItemExtent
import GraphCompletion.Proofs.Words

/-!
# Keys of the enclosing item

A key is offered where the item around the caret lacks it. The keys in use are read from the nearest
dash line, and that line opens the enclosing item only if no list stands between the item's first
line and the caret. Here the keys of the enclosing item are tied to those that are read, and both to
what is offered.
-/
namespace GraphCompletion

variable {lines : List Text} {area : Section} {key : Text} {d index : Nat} {indentSize : Int}

namespace Lines

theorem mem_slice_iff {first stop : Nat} {line : Text} :
    line ∈ (lines.take stop).drop first ↔
      ∃ i, first ≤ i ∧ i < stop ∧ lines[i]? = some line := by
  rw [List.mem_iff_getElem?]
  constructor
  · rintro ⟨i, place⟩
    rw [List.getElem?_drop] at place
    by_cases reached : first + i < stop
    · rw [List.getElem?_take_of_lt reached] at place
      exact ⟨first + i, by omega, reached, place⟩
    · rw [List.getElem?_take_eq_none (by omega)] at place
      cases place
  · rintro ⟨i, later, reached, held⟩
    refine ⟨i - first, ?_⟩
    rw [List.getElem?_drop, Nat.add_sub_cancel' later, List.getElem?_take_of_lt reached]
    exact held

end Lines

namespace Line

theorem isBlank_eq_false_of_key? {line : Text} (named : key? line = some key) :
    isBlank line = false := by
  by_contra blank
  have empty : Text.strip line = [] := by
    rw [Text.strip, (Text.stripLeft_eq_nil_iff line).2 (by simpa [isBlank] using blank)]
    rfl
  simp [key?, empty, Text.afterDash, Text.takeWord?] at named

/-- A key that a line names is an identifier. -/
theorem isWord_of_key? {line : Text} (named : key? line = some key) : Text.isWord key = true := by
  unfold key? at named
  obtain ⟨⟨word, rest⟩, read, named⟩ := Option.bind_eq_some_iff.1 named
  simp only [Option.ite_none_right_eq_some, Option.some.injEq] at named
  exact named.2 ▸ Text.isWord_of_takeWord? read

end Line

namespace Item

theorem mem_keysWithin_iff {limit : Int} : key ∈ keysWithin limit lines ↔
    ∃ line ∈ lines, (Line.indent line : Int) ≤ limit ∧ Line.key? line = some key := by
  simp only [keysWithin, List.mem_eraseDups, List.mem_filterMap, List.mem_filter, Bool.and_eq_true,
    Bool.not_eq_true', decide_eq_true_eq]
  constructor
  · rintro ⟨line, ⟨member, _, near⟩, named⟩
    exact ⟨line, member, near, named⟩
  · rintro ⟨line, member, near, named⟩
    exact ⟨line, ⟨member, Line.isBlank_eq_false_of_key? named, near⟩, named⟩

/-- The dash line `d` opens the item that encloses a line: it is the nearest one above that is
indented less, the line stands one level inside it, and all content in between is deeper than it. -/
structure Encloses (lines : List Text) (index d : Nat) (indentSize : Int) : Prop where
  nearest : Lines.Nearest (index - 1 : Int) (fun i => ∃ line, lines[i]? = some line ∧
    Line.isDash line = true ∧ Line.indent line < Line.indent (Lines.get lines index)) d
  level : (Line.indent (Lines.get lines index) : Int) =
    Line.indent (Lines.get lines d) + indentSize
  within : ∀ i line, d < i → i < index → lines[i]? = some line → Line.isBlank line = false →
    Line.indent (Lines.get lines d) < Line.indent line

/-- The dash line that opens the enclosing item is found by a scan. -/
theorem encloses_iff : Encloses lines index d indentSize ↔
    ((Lines.upTo lines (index - 1)).find? fun entry => Line.isDash entry.1 &&
        decide (Line.indent entry.1 < Line.indent (Lines.get lines index))).map (·.2) = some d ∧
      (Line.indent (Lines.get lines index) : Int) =
        Line.indent (Lines.get lines d) + indentSize ∧
      ∀ line ∈ (lines.take index).drop (d + 1), Line.isBlank line = false →
        Line.indent (Lines.get lines d) < Line.indent line := by
  have scanned : ((Lines.upTo lines (index - 1)).find? fun entry => Line.isDash entry.1 &&
        decide (Line.indent entry.1 < Line.indent (Lines.get lines index))).map (·.2) = some d ↔
      Lines.Nearest (index - 1 : Int) (fun i => ∃ line, lines[i]? = some line ∧
        Line.isDash line = true ∧ Line.indent line < Line.indent (Lines.get lines index)) d :=
    Lines.map_find?_upTo_eq_some_iff fun j => by simp only [Bool.and_eq_true, decide_eq_true_eq]
  rw [scanned]
  constructor
  · rintro ⟨nearest, level, within⟩
    refine ⟨nearest, level, fun line member solid => ?_⟩
    obtain ⟨i, later, before, held⟩ := Lines.mem_slice_iff.1 member
    exact within i line later before held solid
  · rintro ⟨nearest, level, within⟩
    refine ⟨nearest, level, fun i line later before held solid => ?_⟩
    exact within line (Lines.mem_slice_iff.2 ⟨i, later, before, held⟩) solid

instance : Decidable (Encloses lines index d indentSize) := decidable_of_iff _ encloses_iff.symm

/-- The item at the dash line `d` has the key, on that line or on one between it and the line at
`index` that is indented like the latter. -/
def HasKey (lines : List Text) (d index : Nat) (key : Text) : Prop :=
  ∃ i line, lines[i]? = some line ∧ Line.key? line = some key ∧
    (i = d ∨ d < i ∧ i < index ∧ Line.indent line = Line.indent (Lines.get lines index))

/-- No line below the dash ends the item: what is blank does not count, and all else is deeper. -/
theorem Encloses.endsAt_eq_false {line : Text} (enclosing : Encloses lines index d indentSize)
    (member : line ∈ (lines.take (index + 1)).drop (d + 1)) :
    endsAt (Line.indent (Lines.get lines d)) line = false := by
  obtain ⟨i, later, reached, place⟩ := Lines.mem_slice_iff.1 member
  obtain ⟨dash, held, _, less⟩ := enclosing.nearest.holds
  rw [Lines.get_eq_of_getElem? held]
  cases blank : Line.isBlank line with
  | true => simp [endsAt, blank]
  | false =>
    have deeper : Line.indent dash < Line.indent line := by
      rcases Nat.eq_or_lt_of_le (Nat.le_of_lt_succ reached) with rfl | above
      · rwa [Lines.get_eq_of_getElem? place] at less
      · rw [← Lines.get_eq_of_getElem? held]
        exact enclosing.within i line later above place blank
    simp [endsAt, blank, Nat.not_le.2 deeper, Nat.le_of_lt deeper]

/-- Where no dash line stands in between, the item's lines are read down to the line itself. -/
theorem keys_eq_keysWithin (collection : area.isCollection = true) (present : index < lines.length)
    (enclosing : Encloses lines index d indentSize)
    (clear : ∀ i, d < i → i ≤ index → ¬ DashAt lines i) :
    keys lines index area index indentSize =
      keysWithin (Line.indent (Lines.get lines d) + indentSize) ((lines.take (index + 1)).drop d) := by
  obtain ⟨dash, held, opens, _⟩ := enclosing.nearest.holds
  have above : (d : Int) ≤ index := by
    have := enclosing.nearest.reached
    omega
  have opened : Lines.Nearest index (DashAt lines) d :=
    ⟨above, ⟨dash, held, opens⟩, fun i later reached => clear i later (by omega)⟩
  have goesOn : index < stop lines d := by
    obtain ⟨⟨later, ends | finished⟩, _⟩ := isLeast_stop opened.holds.lt_length
    · by_contra early
      obtain ⟨line, place, closing⟩ := ends
      have inside := enclosing.endsAt_eq_false (Lines.mem_slice_iff.2 ⟨_, later, by omega, place⟩)
      rw [(endsItem_iff place).1 ⟨line, place, closing⟩] at inside
      cases inside
    · omega
  have count : min (stop lines d) ((index : Int) + 1).toNat = index + 1 := by omega
  rw [keys_eq collection opened, count]

/-- Where no dash line stands in between, every key of the enclosing item is in use. -/
theorem mem_keys_of_hasKey (collection : area.isCollection = true) (present : index < lines.length)
    (enclosing : Encloses lines index d indentSize)
    (clear : ∀ i, d < i → i ≤ index → ¬ DashAt lines i) (has : HasKey lines d index key) :
    key ∈ keys lines index area index indentSize := by
  obtain ⟨i, line, held, named, place⟩ := has
  obtain ⟨dash, opening, _, less⟩ := enclosing.nearest.holds
  have bound := enclosing.nearest.reached
  have level := enclosing.level
  rw [keys_eq_keysWithin collection present enclosing clear, mem_keysWithin_iff]
  refine ⟨line, Lines.mem_slice_iff.2 ⟨i, by omega, by omega, held⟩, ?_, named⟩
  rw [Lines.get_eq_of_getElem? opening] at level ⊢
  rcases place with rfl | ⟨_, _, same⟩
  · rw [opening, Option.some.injEq] at held
    subst held
    omega
  · omega

end Item

/-- In a grammar whose items are all alike, every collection has those items. -/
theorem Spec.itemSpec?_of_alike (collection : area.isCollection = true) (item : ItemSpec) :
    itemSpec? ⟨none, some item, some item⟩ area = some item := by
  cases area with
  | root => simp [Section.isCollection] at collection
  | nodes => rfl
  | links => rfl

namespace Suggestion

variable {typed : Text} {used : List Text}

/-- Some grammar lets the key be offered for what is typed. -/
def Offerable (typed key : Text) : Prop :=
  matchesTyped (normalizeTyped typed) key = true ∧ key ≠ ItemSpec.forbiddenKey

/-- A key that is offered is not in use. -/
theorem of_mem_nextKey {spec : Option ItemSpec} (isWord : Text.isWord key = true)
    (offered : key ∈ nextKey spec used typed) : Offerable typed key ∧ key ∉ used := by
  have found := List.mem_of_mem_take offered
  simp only [List.mem_filter, Bool.not_eq_true', List.contains_eq_mem, decide_eq_false_iff_not] at found
  obtain ⟨⟨known, unused⟩, begins⟩ := found
  refine ⟨⟨begins, ?_⟩, unused⟩
  cases spec with
  | none => simp [keysOf] at known
  | some item =>
    simp only [keysOf, Option.map_some, Option.getD_some, ItemSpec.offeredKeys, ItemSpec.offerable,
      List.mem_eraseDups, List.mem_append, List.mem_filter, Text.strip_word isWord, Bool.and_eq_true,
      bne_iff_ne] at known
    rcases known with required | ordered
    · exact required.2.2
    · exact ordered.2.2

/-- A grammar that requires one key, whichever opens its items, has that key alone. -/
theorem keysOf_single (isWord : Text.isWord key = true) (allowed : key ≠ ItemSpec.forbiddenKey)
    (start : Text) : keysOf (some (.ofTexts [] [key] start)) = [key] := by
  simp [keysOf, ItemSpec.offeredKeys, ItemSpec.offerable, ItemSpec.ofTexts, Datum.text?,
    Text.isBlank_word isWord, Text.strip_word isWord, allowed, List.eraseDups_cons]

/-- A grammar with one key offers it unless it is in use. -/
theorem nextKey_of_single (isWord : Text.isWord key = true) (offerable : Offerable typed key)
    (unused : key ∉ used) : nextKey (some (.ofTexts [] [key] key)) used typed = [key] := by
  unfold nextKey
  simp [keysOf_single isWord offerable.2, unused, offerable.1]

end Suggestion

namespace Completion

/-- Where a key is asked for, the next one of the section's items is suggested. -/
theorem suggestions_eq_nextKey {c : Completion} (asked : c.context.kind = .key)
    (collection : c.context.area.isCollection = true) (metadata : Metadata) (vocabulary : Vocabulary) :
    c.suggestions metadata vocabulary =
      Suggestion.nextKey (vocabulary.spec.itemSpec? c.context.area) c.objectKeys c.context.typed := by
  unfold suggestions Suggestion.offered
  simp only [asked, collection, if_true]
  rfl

/-- Where no dash line stands between the item's first line and the caret, no key of the enclosing
item is suggested again. In general that holds for every grammar exactly if each of the item's keys
that could be suggested is among the keys that were read. -/
theorem suggestions_skip_enclosing_keys {text : Text} {lineNumber column indentSize : Int} {d : Nat}
    (asked : (EditingContext.resolve text lineNumber column indentSize).kind = .key)
    (enclosing : Item.Encloses (Lines.ofText text) (Lines.caretIndex (Lines.ofText text) lineNumber) d
      indentSize) (entities : Entities) (document : Yaml.Document) :
    let lines := Lines.ofText text
    let index := Lines.caretIndex lines lineNumber
    let metadata := Metadata.ofDocument text entities document
    let completion := atCaret text lineNumber column metadata indentSize
    ((∀ i, d < i → i ≤ index → ¬ Item.DashAt lines i) → ∀ vocabulary key,
      Item.HasKey lines d index key → key ∉ completion.suggestions metadata vocabulary) ∧
    ((∀ vocabulary key, Item.HasKey lines d index key →
        key ∉ completion.suggestions metadata vocabulary) ↔
      ∀ key, Item.HasKey lines d index key → Suggestion.Offerable completion.context.typed key →
        key ∈ completion.objectKeys) := by
  intro lines index metadata completion
  have collection : completion.context.area.isCollection = true :=
    Section.isCollection_of_ne_root (EditingContext.area_resolve_ne_root (.inr asked))
  have present : index < lines.length := Lines.caretIndex_lt lineNumber (Lines.ofText_ne_nil text)
  have suggested (vocabulary : Vocabulary) := suggestions_eq_nextKey (c := completion) asked collection
    metadata vocabulary
  have identifier {key : Text} (has : Item.HasKey lines d index key) : Text.isWord key = true := by
    obtain ⟨_, _, _, named, _⟩ := has
    exact Line.isWord_of_key? named
  have unrepeated : (∀ vocabulary key, Item.HasKey lines d index key →
        key ∉ completion.suggestions metadata vocabulary) ↔
      ∀ key, Item.HasKey lines d index key → Suggestion.Offerable completion.context.typed key →
        key ∈ completion.objectKeys := by
    constructor
    · intro never key has offerable
      by_contra unused
      -- A grammar with this key alone has nothing else to suggest.
      let only : ItemSpec := .ofTexts [] [key] key
      have repeated := never { spec := ⟨none, some only, some only⟩ } key has
      rw [suggested] at repeated
      rw [Spec.itemSpec?_of_alike collection,
        Suggestion.nextKey_of_single (identifier has) offerable unused] at repeated
      simp at repeated
    · intro used vocabulary key has member
      rw [suggested] at member
      obtain ⟨offerable, unused⟩ := Suggestion.of_mem_nextKey (identifier has) member
      exact unused (used key has offerable)
  refine ⟨fun clear => unrepeated.2 fun key has _ => ?_, unrepeated⟩
  rw [objectKeys_atCaret asked]
  exact Item.mem_keys_of_hasKey collection present enclosing clear has

/-- No key of an item is suggested again where only a key stands between its dash and the caret. -/
theorem suggestions_skip_name_and_ports :
    let text := "nodes:\n  - name: a\n    ports:\n    ".toList
    let metadata := Metadata.ofDocument text {} .null
    let completion := atCaret text 4 5 metadata 2
    completion.context.kind = .key ∧ ∀ vocabulary, ∀ key ∈ ["name".toList, "ports".toList],
      key ∉ completion.suggestions metadata vocabulary := by
  intro text metadata completion
  have asked : (EditingContext.resolve text 4 5 2).kind = .key := by decide
  have caret : Lines.caretIndex (Lines.ofText text) 4 = 3 := by decide
  have enclosing : Item.Encloses (Lines.ofText text) (Lines.caretIndex (Lines.ofText text) 4) 1 2 := by
    decide
  have clear := (suggestions_skip_enclosing_keys asked enclosing {} .null).1
  rw [caret] at clear
  refine ⟨asked, fun vocabulary key member => ?_⟩
  refine clear (fun i later bound => ?_) vocabulary key ?_
  · have place : i = 2 ∨ i = 3 := by omega
    rcases place with rfl | rfl <;> decide
  · simp only [List.mem_cons, List.not_mem_nil, or_false] at member
    rcases member with rfl | rfl
    · exact ⟨1, "  - name: a".toList, by decide, by decide, .inl rfl⟩
    · exact ⟨2, "    ports:".toList, by decide, by decide,
        .inr ⟨by decide, by decide, by decide⟩⟩

/-- Below a nested list the name of the enclosing item is suggested again. -/
theorem name_suggested_again_below_list :
    let text := "nodes:\n  - name: a\n    ports:\n      - x\n    ".toList
    let metadata := Metadata.ofDocument text {} .null
    let completion := atCaret text 5 5 metadata 2
    completion.context.kind = .key ∧ Item.Encloses (Lines.ofText text) 4 1 2 ∧
      Item.HasKey (Lines.ofText text) 1 4 "name" ∧
      completion.suggestions metadata {} = ["name"] := by
  refine ⟨by decide, by decide, ?_, by decide⟩
  exact ⟨1, "  - name: a".toList, by decide, by decide, .inl rfl⟩

end Completion
end GraphCompletion
