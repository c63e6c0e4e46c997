import GraphCompletion.Context
import GraphCompletion.Proofs.Words

/-!
# The form of a context

Not every context can be resolved. Each kind belongs to certain sections and admits certain texts, an
endpoint is given with endpoint values only, and what is typed always ends the text left of the caret.
Whoever takes a context up may rely on this, whatever document and caret it came from.
-/
namespace GraphCompletion

namespace ContextKind

/-- The sections that a kind belongs to. -/
def StandsIn : ContextKind → Section → Prop
  | rootKey, area => area = .root
  | rootItemKey, area => area = .root
  | key, area => area = .nodes ∨ area = .links
  | itemKey, area => area = .nodes ∨ area = .links
  | nodeTypeValue, area => area = .nodes
  | linkTypeValue, area => area = .links
  | endpointValue, area => area = .links
  | none, _ => True

/-- The texts that may be typed for a kind: a key or nothing of it, characters of a key for a type, and
no white space for an endpoint. -/
def Admits : ContextKind → Text → Prop
  | rootKey, typed => typed = [] ∨ Text.isWord typed = true
  | key, typed => typed = [] ∨ Text.isWord typed = true
  | itemKey, typed => typed = [] ∨ Text.isWord typed = true
  | nodeTypeValue, typed => ∀ c ∈ typed, Text.isWordChar c = true
  | linkTypeValue, typed => ∀ c ∈ typed, Text.isWordChar c = true
  | endpointValue, typed => ∀ c ∈ typed, Text.isBlankChar c = false
  | rootItemKey, typed => typed = []
  | none, typed => typed = []

end ContextKind

namespace Text

theorem stripLeft_suffix (t : Text) : stripLeft t <:+ t := List.dropWhile_suffix _

theorem afterDash_suffix (t : Text) : afterDash t <:+ t := by
  unfold afterDash
  split
  next rest => exact (stripLeft_suffix rest).trans (List.suffix_cons _ rest)
  next => exact List.suffix_rfl

theorem suffix_of_after? {word t rest : Text} (found : after? word t = some rest) : rest <:+ t :=
  ⟨word, List.append_eq_of_isPrefixOf?_eq_some found⟩

end Text

namespace EditingContext

/-- A context as it can be resolved where `left` is the stripped text left of the caret. -/
structure WellFormed (context : EditingContext) (left : Text) : Prop where
  endpoint : context.endpoint.isSome = true ↔ context.kind = .endpointValue
  standsIn : context.kind.StandsIn context.area
  admits : context.kind.Admits context.typed
  ends : context.typed <:+ left

variable {area : Section} {typed value word : Text} {context : EditingContext}

theorem typeValue?_eq_some (found : typeValue? typed = some value) :
    (∀ c ∈ value, Text.isWordChar c = true) ∧ value <:+ typed := by
  simp only [typeValue?, Option.bind_eq_bind, Option.bind_eq_some_iff] at found
  obtain ⟨rest, after, found⟩ := found
  split at found
  next chars =>
    obtain rfl := Option.some.inj found
    refine ⟨List.all_eq_true.1 chars, ?_⟩
    exact (Text.stripLeft_suffix rest).trans
      ((Text.suffix_of_after? after).trans (Text.afterDash_suffix typed))
  next => simp at found

theorem endpointValue?_eq_some {endpoint : Endpoint}
    (found : endpointValue? typed = some (endpoint, value)) :
    (∀ c ∈ value, Text.isBlankChar c = false) ∧ value <:+ typed := by
  obtain ⟨named, _, found⟩ := List.exists_of_findSome?_eq_some found
  simp only [Option.bind_eq_bind, Option.bind_eq_some_iff] at found
  obtain ⟨rest, after, found⟩ := found
  split at found
  next => simp at found
  next solid =>
    obtain ⟨_, rfl⟩ := Prod.mk.inj (Option.some.inj found)
    refine ⟨by simpa using solid, ?_⟩
    exact (Text.stripLeft_suffix rest).trans
      ((Text.suffix_of_after? after).trans (Text.afterDash_suffix typed))

theorem dashKey?_eq_some (found : dashKey? typed = some word) :
    (word = [] ∨ Text.isWord word = true) ∧ word <:+ typed := by
  unfold dashKey? at found
  split at found
  next rest =>
    simp only at found
    split at found
    next key =>
      obtain rfl := Option.some.inj found
      refine ⟨by simpa using key, ?_⟩
      exact (Text.stripLeft_suffix rest).trans (List.suffix_cons _ rest)
    next => simp at found
  next => simp at found

theorem bareKey?_eq_some (found : bareKey? typed = some word) :
    (word = [] ∨ Text.isWord word = true) ∧ word <:+ typed := by
  unfold bareKey? at found
  split at found
  next key =>
    obtain rfl := Option.some.inj found
    exact ⟨by simpa using key, List.suffix_rfl⟩
  next => simp at found

/-- A value is typed in a section that has such values. -/
theorem wellFormed_of_ofValue? (found : ofValue? area typed = some context) :
    context.WellFormed typed := by
  unfold ofValue? at found
  split at found
  next value read =>
    obtain rfl := Option.some.inj found
    obtain ⟨chars, ends⟩ := typeValue?_eq_some read
    exact ⟨by simp, rfl, chars, ends⟩
  next value read =>
    obtain rfl := Option.some.inj found
    obtain ⟨chars, ends⟩ := typeValue?_eq_some read
    exact ⟨by simp, rfl, chars, ends⟩
  next endpoint value _ read =>
    obtain rfl := Option.some.inj found
    obtain ⟨solid, ends⟩ := endpointValue?_eq_some read
    exact ⟨by simp, rfl, solid, ends⟩
  next => simp at found

/-- Outside the root an item's key or a key of its mapping is typed. -/
theorem wellFormed_of_key {kind : ContextKind} (inside : area ≠ .root)
    (ofItem : kind = .itemKey ∨ kind = .key) (key : word = [] ∨ Text.isWord word = true)
    (ends : word <:+ typed) : WellFormed ⟨kind, area, word, none⟩ typed := by
  have collection : area = .nodes ∨ area = .links := by
    cases area with
    | root => exact absurd rfl inside
    | nodes => exact .inl rfl
    | links => exact .inr rfl
  rcases ofItem with rfl | rfl
  · exact ⟨by simp, collection, key, ends⟩
  · exact ⟨by simp, collection, key, ends⟩

theorem ofKey?_of_dashKey? {atItemColumn : Bool} (inside : area ≠ .root)
    (dash : dashKey? typed = some word) :
    ofKey? area atItemColumn typed = some ⟨.itemKey, area, word, none⟩ := by
  cases area with
  | root => exact absurd rfl inside
  | nodes => simp only [ofKey?, dash]
  | links => simp only [ofKey?, dash]

/-- A key is typed at the root, for an item or inside one. -/
theorem wellFormed_of_ofKey? {atItemColumn : Bool}
    (found : ofKey? area atItemColumn typed = some context) : context.WellFormed typed := by
  by_cases root : area = .root
  · subst root
    cases bare : bareKey? typed with
    | none => simp [ofKey?, bare] at found
    | some word =>
      simp only [ofKey?, bare, Option.some.injEq] at found
      obtain ⟨key, ends⟩ := bareKey?_eq_some bare
      rw [← found]
      exact ⟨by simp, rfl, key, ends⟩
  · cases dash : dashKey? typed with
    | some word =>
      obtain ⟨key, ends⟩ := dashKey?_eq_some dash
      rw [ofKey?_of_dashKey? root dash, Option.some.injEq] at found
      rw [← found]
      exact wellFormed_of_key root (.inl rfl) key ends
    | none =>
      cases bare : bareKey? typed with
      | none => simp [ofKey?, dash, bare] at found
      | some word =>
        obtain ⟨key, ends⟩ := bareKey?_eq_some bare
        simp only [ofKey?, dash, bare, Option.some.injEq] at found
        rw [← found]
        refine wellFormed_of_key root ?_ key ends
        split
        · exact .inl rfl
        · exact .inr rfl

theorem wellFormed_ofLine (lines : List Text) (lineNumber indentSize : Int) (left : Text) :
    (ofLine lines lineNumber indentSize left).WellFormed left := by
  unfold ofLine
  simp only
  generalize Scope.governing lines (lineNumber - 1) _ = scope
  split
  next => exact ⟨by simp, rfl, rfl, List.nil_suffix⟩
  next =>
    split
    next goesOn =>
      exact wellFormed_of_key goesOn.1 (.inl rfl) (.inl rfl) List.nil_suffix
    next =>
      cases value : ofValue? scope.area left with
      | some context => exact wellFormed_of_ofValue? value
      | none =>
        rw [Option.none_or]
        cases key : ofKey? scope.area _ left with
        | some context => exact wellFormed_of_ofKey? key
        | none => exact ⟨by simp, trivial, rfl, List.nil_suffix⟩

theorem standsIn_resolve (text : Text) (lineNumber column indentSize : Int) :
    (resolve text lineNumber column indentSize).kind.StandsIn
      (resolve text lineNumber column indentSize).area :=
  (wellFormed_ofLine _ _ indentSize _).standsIn

theorem isSome_endpoint_resolve {text : Text} {lineNumber column indentSize : Int}
    (asked : (resolve text lineNumber column indentSize).kind = .endpointValue) :
    (resolve text lineNumber column indentSize).endpoint.isSome = true :=
  (wellFormed_ofLine _ _ indentSize _).endpoint.2 asked

/-- The stripped text left of a caret, once its line number and column are moved into the document. -/
def leftOfCaret (text : Text) (lineNumber column : Int) : Text :=
  let padded := Lines.padTo (Lines.ofText text) lineNumber
  let line := Lines.get padded (Lines.clampLineNumber lineNumber padded.length - 1)
  Text.strip (line.take (Lines.clampColumn column line - 1).toNat)

/-- Every context that is resolved has the form that its kind asks for, whatever the document is and
wherever the caret stands. -/
theorem wellFormed_resolve (text : Text) (lineNumber column indentSize : Int) :
    (resolve text lineNumber column indentSize).WellFormed (leftOfCaret text lineNumber column) :=
  wellFormed_ofLine _ _ indentSize _

end EditingContext
end GraphCompletion
