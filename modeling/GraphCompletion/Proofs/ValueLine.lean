import GraphCompletion.Insertion
import GraphCompletion.Proofs.CaretView
import GraphCompletion.Proofs.ContextForm

/-!
# Lines on which a value is typed

A type or an endpoint is being typed where the text left of the caret is such a key, with or without
a dash before it, a colon and what is typed of the value. What stands right of the caret does not
count, and the line is neither blank nor a header whatever stands there, so that its context hangs on
the governing header alone.
-/
namespace GraphCompletion

namespace Text

/-- What follows a key in front of a text is not touched when a dash before the key is cut off. -/
theorem afterDash_append {t : Text} (filled : afterDash t ≠ []) (rest : Text) :
    afterDash (t ++ rest) = afterDash t ++ rest := by
  unfold afterDash at filled ⊢
  split at filled
  next behind =>
    have solid : isBlank behind = false := by
      simpa [stripLeft_eq_nil_iff] using filled
    exact stripLeft_append solid rest
  next noDash =>
    cases t with
    | nil => exact absurd rfl filled
    | cons c others =>
      rw [List.cons_append]
      split
      next same => exact absurd (congrArg (· :: others) (List.cons.inj same).1) (noDash others)
      next => rfl

end Text

/-- On a line that opens no item there is no dash to cut off. -/
theorem Line.afterDash_stripLeft {line : Text} (bare : isDash line = false) :
    Text.afterDash (Text.stripLeft line) = Text.stripLeft line := by
  apply Text.afterDash_of_head?
  rw [isDash, Text.head?_strip] at bare
  simpa using bare

/-- Something is typed behind a key and its colon. -/
def ContextKind.isValue : ContextKind → Bool
  | nodeTypeValue | linkTypeValue | endpointValue => true
  | rootKey | rootItemKey | key | itemKey | none => false

namespace EditingContext

/-- The context right behind a key and its colon, if the key's value is asked for in the section. -/
def ofKeyValue? (area : Section) (key : Text) : Option EditingContext :=
  match area with
  | .root => none
  | .nodes => if key = Item.terminalKey then some ⟨.nodeTypeValue, .nodes, [], none⟩ else none
  | .links =>
    if key = Item.terminalKey then some ⟨.linkTypeValue, .links, [], none⟩
    else if key = Endpoint.source.word then some ⟨.endpointValue, .links, [], some .source⟩
    else if key = Endpoint.target.word then some ⟨.endpointValue, .links, [], some .target⟩
    else none

variable {area : Section} {typed key rest : Text} {context : EditingContext}

/-- The keys whose values are asked for: the type in either collection, an endpoint in links. -/
theorem ofKeyValue?_cases (found : ofKeyValue? area key = some context) :
    (key = Item.terminalKey ∧ area = .nodes ∧ context = ⟨.nodeTypeValue, .nodes, [], none⟩) ∨
    (key = Item.terminalKey ∧ area = .links ∧ context = ⟨.linkTypeValue, .links, [], none⟩) ∨
    ∃ endpoint : Endpoint, key = endpoint.word ∧ area = .links ∧
      context = ⟨.endpointValue, .links, [], some endpoint⟩ := by
  cases area with
  | root => cases found
  | nodes =>
    simp only [ofKeyValue?, Option.ite_none_right_eq_some, Option.some.injEq] at found
    exact .inl ⟨found.1, rfl, found.2.symm⟩
  | links =>
    right
    simp only [ofKeyValue?] at found
    split at found
    next same => exact .inl ⟨same, rfl, (Option.some.inj found).symm⟩
    next =>
      split at found
      next same => exact .inr ⟨.source, same, rfl, (Option.some.inj found).symm⟩
      next =>
        simp only [Option.ite_none_right_eq_some, Option.some.injEq] at found
        exact .inr ⟨.target, found.1, rfl, found.2.symm⟩

theorem mem_askingKeys_of_ofKeyValue? (found : ofKeyValue? area key = some context) :
    key ∈ FollowUp.askingKeys := by
  rcases ofKeyValue?_cases found with ⟨rfl, _⟩ | ⟨rfl, _⟩ | ⟨endpoint, rfl, _⟩
  · decide
  · decide
  · cases endpoint <;> decide

/-- Nothing of the value is typed yet, and its kind admits that. -/
theorem fresh_of_ofKeyValue? (found : ofKeyValue? area key = some context) :
    context.typed = [] ∧ context.kind.Admits [] := by
  rcases ofKeyValue?_cases found with ⟨_, _, rfl⟩ | ⟨_, _, rfl⟩ | ⟨_, _, _, rfl⟩
  · exact ⟨rfl, nofun⟩
  · exact ⟨rfl, nofun⟩
  · exact ⟨rfl, nofun⟩

theorem after?_key {t word : Text} (cut : t = word ++ ':' :: rest) :
    Text.after? (word ++ [':']) t = some rest := by
  rw [Text.after?, List.isPrefixOf?_eq_some_iff_append_eq, cut]
  simp

theorem exists_rest_of_after? {t word : Text} (found : Text.after? (word ++ [':']) t = some rest) :
    t = word ++ ':' :: rest := by
  rw [Text.after?, List.isPrefixOf?_eq_some_iff_append_eq] at found
  rw [← found]
  simp

theorem typeValue?_of_cut (cut : Text.afterDash typed = Item.terminalKey ++ ':' :: rest)
    (chars : ∀ c ∈ Text.stripLeft rest, Text.isWordChar c = true) :
    typeValue? typed = some (Text.stripLeft rest) := by
  have found : Text.after? "type:" (Text.afterDash typed) = some rest := after?_key cut
  unfold typeValue?
  rw [found, Option.bind_eq_bind, Option.bind_some]
  simp only
  rw [if_pos (List.all_eq_true.2 chars)]

theorem endpointValue?_of_cut {endpoint : Endpoint}
    (cut : Text.afterDash typed = endpoint.word ++ ':' :: rest)
    (solid : ∀ c ∈ Text.stripLeft rest, Text.isBlankChar c = false) :
    typeValue? typed = none ∧ endpointValue? typed = some (endpoint, Text.stripLeft rest) := by
  have none : (Text.stripLeft rest).any Text.isBlankChar = false := by simpa using solid
  have found : Text.after? (endpoint.word ++ [':']) (Text.afterDash typed) = some rest := after?_key cut
  cases endpoint with
  | source =>
    have noType : Text.after? "type:" (Text.afterDash typed) = Option.none := by rw [cut]; rfl
    refine ⟨by rw [typeValue?, noType]; rfl, ?_⟩
    simp only [endpointValue?, Endpoint.all, List.findSome?_cons, found, Option.bind_eq_bind,
      Option.bind_some, none, Bool.false_eq_true, if_false]
  | target =>
    have noType : Text.after? "type:" (Text.afterDash typed) = Option.none := by rw [cut]; rfl
    have noSource : Text.after? (Endpoint.source.word ++ [':']) (Text.afterDash typed) = Option.none := by
      rw [cut]
      rfl
    refine ⟨by rw [typeValue?, noType]; rfl, ?_⟩
    simp only [endpointValue?, Endpoint.all, List.findSome?_cons, found, noSource, Option.bind_eq_bind,
      Option.bind_some, Option.bind_none, none, Bool.false_eq_true, if_false]

/-- Behind a key and its colon, whatever the kind of its value admits is that value. -/
theorem ofValue?_of_key (found : ofKeyValue? area key = some context)
    (cut : Text.afterDash typed = key ++ ':' :: rest)
    (admitted : context.kind.Admits (Text.stripLeft rest)) :
    ofValue? area typed = some { context with typed := Text.stripLeft rest } := by
  unfold ofValue?
  rcases ofKeyValue?_cases found with ⟨rfl, rfl, rfl⟩ | ⟨rfl, rfl, rfl⟩ | ⟨endpoint, rfl, rfl, rfl⟩
  · rw [typeValue?_of_cut cut admitted]
  · rw [typeValue?_of_cut cut admitted]
  · obtain ⟨noType, value⟩ := endpointValue?_of_cut cut admitted
    rw [noType, value]

theorem typeValue?_cut {value : Text} (found : typeValue? typed = some value) :
    ∃ rest, Text.afterDash typed = "type".toList ++ ':' :: rest ∧ value = Text.stripLeft rest := by
  simp only [typeValue?, Option.bind_eq_bind, Option.bind_eq_some_iff] at found
  obtain ⟨rest, after, found⟩ := found
  split at found
  next => exact ⟨rest, exists_rest_of_after? after, (Option.some.inj found).symm⟩
  next => cases found

theorem endpointValue?_cut {endpoint : Endpoint} {value : Text}
    (found : endpointValue? typed = some (endpoint, value)) :
    ∃ rest, Text.afterDash typed = endpoint.word ++ ':' :: rest ∧ value = Text.stripLeft rest := by
  obtain ⟨named, _, found⟩ := List.exists_of_findSome?_eq_some found
  simp only [Option.bind_eq_bind, Option.bind_eq_some_iff] at found
  obtain ⟨rest, after, found⟩ := found
  split at found
  next => cases found
  next =>
    obtain ⟨rfl, rfl⟩ := Prod.mk.inj (Option.some.inj found)
    exact ⟨rest, exists_rest_of_after? after, rfl⟩

/-- A value that is typed stands behind a key with such values, and its colon. -/
theorem exists_key_of_ofValue? (found : ofValue? area typed = some context) :
    ∃ key rest, Text.afterDash typed = key ++ ':' :: rest ∧
      ofKeyValue? area key = some { context with typed := [] } ∧
      context.typed = Text.stripLeft rest := by
  unfold ofValue? at found
  split at found
  next value read =>
    cases found
    obtain ⟨rest, cut, same⟩ := typeValue?_cut read
    exact ⟨"type", rest, cut, rfl, same⟩
  next value read =>
    cases found
    obtain ⟨rest, cut, same⟩ := typeValue?_cut read
    exact ⟨"type", rest, cut, rfl, same⟩
  next endpoint value _ read =>
    cases found
    obtain ⟨rest, cut, same⟩ := endpointValue?_cut read
    refine ⟨endpoint.word, rest, cut, ?_, same⟩
    cases endpoint <;> rfl
  next => cases found

/-- Right behind a key and its colon nothing of the value is typed yet. -/
theorem ofValue?_of_key_blank (found : ofKeyValue? area key = some context)
    (cut : Text.afterDash typed = key ++ ':' :: rest) (blank : Text.isBlank rest = true) :
    ofValue? area typed = some context := by
  obtain ⟨fresh, admitted⟩ := fresh_of_ofKeyValue? found
  have nothing : Text.stripLeft rest = [] := (Text.stripLeft_eq_nil_iff rest).2 blank
  have read := ofValue?_of_key found cut (nothing ▸ admitted)
  rw [read, nothing, ← fresh]

theorem isValue_of_ofValue? (found : ofValue? area typed = some context) :
    context.kind.isValue = true := by
  unfold ofValue? at found
  split at found <;> cases found <;> rfl

/-- Without a colon it is a key that is typed, and only right of the items' column a mapping's. -/
theorem kind_of_ofKey? {atItemColumn : Bool} (found : ofKey? area atItemColumn typed = some context) :
    context.kind.isValue = false ∧ (context.kind = .key → atItemColumn = false) := by
  unfold ofKey? at found
  split at found
  · cases found
    exact ⟨rfl, nofun⟩
  · cases found
  · cases found
    exact ⟨rfl, nofun⟩
  · cases found
    cases atItemColumn
    · exact ⟨rfl, fun _ => rfl⟩
    · exact ⟨rfl, nofun⟩
  · cases found

/-- Values and the keys of mappings come from the two rules that read what is typed. -/
theorem ofLine_eq_typed {lines : List Text} {index : Nat} {indentSize : Int}
    (asked : (ofLine lines (index + 1) indentSize typed).kind.isValue = true ∨
      (ofLine lines (index + 1) indentSize typed).kind = .key) :
    let indent := Line.indent (Lines.get lines index)
    let scope := Scope.governing lines index indent
    ofValue? scope.area typed = some (ofLine lines (index + 1) indentSize typed) ∨
      ofKey? scope.area (indent ≤ scope.indent + indentSize) typed =
        some (ofLine lines (index + 1) indentSize typed) := by
  intro indent scope
  revert asked
  unfold ofLine
  simp only [Int.add_sub_cancel]
  split
  · nofun
  · split
    · nofun
    · cases outcome : (ofValue? scope.area typed).or
        (ofKey? scope.area (indent ≤ scope.indent + indentSize) typed) with
      | none =>
        rw [Option.getD_none]
        nofun
      | some found =>
        intro _
        rw [Option.getD_some]
        exact (Option.or_eq_some_iff.1 outcome).imp_right And.right

/-- A context of a value is that of the value that is typed. -/
theorem ofValue?_eq_ofLine {lines : List Text} {index : Nat} {indentSize : Int}
    (asked : (ofLine lines (index + 1) indentSize typed).kind.isValue = true) :
    ofValue? (Scope.governing lines index (Line.indent (Lines.get lines index))).area typed =
      some (ofLine lines (index + 1) indentSize typed) := by
  rcases ofLine_eq_typed (.inl asked) with value | key
  · exact value
  · have other := (kind_of_ofKey? key).1
    rw [asked] at other
    cases other

section Left

variable {left : Text}

theorem isBlank_of_value (found : ofValue? area (Text.strip left) = some context) :
    Text.isBlank left = false := by
  by_contra blank
  obtain ⟨key, rest, cut, _⟩ := exists_key_of_ofValue? found
  have nothing : Text.strip left = [] := by
    rw [Text.strip, (Text.stripLeft_eq_nil_iff left).2 (by simpa using blank)]
    rfl
  rw [nothing] at cut
  simp [Text.afterDash] at cut

/-- The line on which a value is typed begins with a key whose value that is, whatever stands right of
it. -/
theorem exists_key_of_line (found : ofValue? area (Text.strip left) = some context) (right : Text) :
    ∃ key rest, Text.afterDash (Text.stripLeft (left ++ right)) = key ++ ':' :: rest ∧
      ofKeyValue? area key = some { context with typed := [] } := by
  obtain ⟨key, rest, cut, value, _⟩ := exists_key_of_ofValue? found
  obtain ⟨tail, _, whole⟩ := Text.exists_stripRight_append (Text.stripLeft left)
  have line : Text.stripLeft (left ++ right) = Text.strip left ++ (tail ++ right) := by
    rw [Text.stripLeft_append (isBlank_of_value found), ← List.append_assoc]
    exact congrArg (· ++ right) whole
  have filled : Text.afterDash (Text.strip left) ≠ [] := by
    rw [cut]
    simp
  refine ⟨key, rest ++ (tail ++ right), ?_, value⟩
  rw [line, Text.afterDash_append filled, cut, List.append_assoc, List.cons_append]

/-- A line on which a value is typed is no header. -/
theorem ofHeader?_of_value (found : ofValue? area (Text.strip left) = some context) (right : Text) :
    Scope.ofHeader? (left ++ right) = none := by
  obtain ⟨key, rest, cut, value⟩ := exists_key_of_line found right
  cases dash : Line.isDash (left ++ right) with
  | true => exact Scope.ofHeader?_of_isDash dash
  | false =>
    have asks := mem_askingKeys_of_ofKeyValue? value
    have plain : Text.isWord key = true ∧ key ∉ Section.headers.map Prod.fst := by
      simp only [FollowUp.askingKeys, List.mem_cons, List.not_mem_nil, or_false] at asks
      rcases asks with rfl | rfl | rfl <;> decide
    rw [Line.afterDash_stripLeft dash] at cut
    exact Scope.ofHeader?_eq_none_of_key plain.1 plain.2 cut

theorem ofLine_of_value {lines : List Text} {index : Nat} {indentSize : Int}
    (found : ofValue? area typed = some context)
    (stands : (Scope.governing lines index (Line.indent (Lines.get lines index))).area = area)
    (solid : Line.isBlank (Lines.get lines index) = false) :
    ofLine lines (index + 1) indentSize typed = context := by
  have inside : area ≠ .root := by
    rintro rfl
    obtain ⟨_, _, _, value, _⟩ := exists_key_of_ofValue? found
    cases value
  have place : max 0 ((index : Int) + 1 - 1) = index := by omega
  have starts (itemIndent : Int) : Item.continuesAfterLastKey lines (index + 1) area itemIndent = false := by
    unfold Item.continuesAfterLastKey
    simp only [place, solid, Bool.false_and]
  unfold ofLine
  simp only [Int.add_sub_cancel, stands, starts, found, inside, false_and, if_false, Bool.false_eq_true,
    and_false, Option.some_or, Option.getD_some]

/-- Where a value is typed left of a caret, the section of its line alone decides on the context. -/
theorem resolve_of_value {text right : Text} {index h : Nat} {scope : Scope}
    (held : (Lines.ofText text)[index]? = some (left ++ right))
    (governs : Scope.GovernsLine (Lines.ofText text) index h scope)
    (found : ofValue? scope.area (Text.strip left) = some context) (indentSize : Int) :
    resolve text (index + 1) (left.length + 1) indentSize = context := by
  have inside : index < (Lines.ofText text).length := (List.getElem?_eq_some_iff.1 held).1
  have line := Lines.get_eq_of_getElem? held
  have typed : (left ++ right).take ((left.length : Int) + 1 - 1).toNat = left := by
    rw [Int.add_sub_cancel, Int.toNat_natCast, List.take_left]
  have within : 1 ≤ (left.length : Int) + 1 ∧
      (left.length : Int) + 1 ≤ (Lines.get (Lines.ofText text) index).length + 1 := by
    rw [line, List.length_append]
    omega
  rw [resolve_of_inside indentSize inside within, line, typed]
  refine ofLine_of_value found (congrArg Scope.area governs.governing_eq) ?_
  rw [line, Line.isBlank, Text.isBlank, List.all_append]
  have solid := isBlank_of_value found
  exact Bool.and_eq_false_imp.2 fun blank => by simp [Text.isBlank, blank] at solid

end Left

end EditingContext
end GraphCompletion
