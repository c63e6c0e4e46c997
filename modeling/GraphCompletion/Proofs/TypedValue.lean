import GraphCompletion.Completion
import GraphCompletion.Proofs.CatalogReading
import GraphCompletion.Proofs.ItemInsertion
import GraphCompletion.Proofs.LowerCase
import GraphCompletion.Proofs.ValueLine

/-!
# Typing a value that is offered

A type or a node's name that is offered where a value begins should not vanish while it is typed. It
stays as far as what is typed still reads as a value there, which leaves white space out of names and
all but the characters of keys out of types. Types are offered in lower case and typed as they are;
names are compared in lower case, where a sigma can change its form when the text breaks off behind it.
-/
namespace GraphCompletion

namespace Text

/-- The text ends in a capital sigma that takes its final form there, though the whole that it begins
goes on with a letter. -/
def SplitsAtSigma (t whole : Text) : Prop :=
  endsInSigma t = true ∧ startsCased (whole.drop t.length) = true

theorem lower_prefix_lower {t whole : Text} (begins : t <+: whole) (kept : ¬ SplitsAtSigma t whole) :
    lower t <+: lower whole := by
  obtain ⟨rest, rfl⟩ := begins
  unfold SplitsAtSigma at kept
  rw [List.drop_left] at kept
  exact lower_prefix_append kept

theorem colon_not_mem_lower {t : Text} (none : ':' ∉ t) : ':' ∉ lower t := by
  have count := count_lowerAfter_le [] t
  rw [List.count_eq_zero_of_not_mem none] at count
  exact List.count_eq_zero.1 (Nat.le_zero.1 count)

theorem lower_ne_nil {t : Text} (filled : t ≠ []) : lower t ≠ [] := by
  cases t with
  | nil => exact absurd rfl filled
  | cons c rest => exact lowerAfter_ne_nil [] c rest

end Text

namespace Catalog

/-- The texts are in lower case. -/
def Lowered (texts : List Text) : Prop := ∀ t ∈ texts, ∃ raw, t = Text.lower raw

theorem lowered_normalizeTexts (texts : List Text) : Lowered (normalizeTexts texts) := by
  intro t member
  have inside := List.mem_of_mem_filter (List.mem_eraseDups.1 member)
  obtain ⟨raw, _, same⟩ := List.mem_map.1 inside
  exact ⟨_, same.symm⟩

theorem exists_normalizeTexts {value : Datum} {types : List Text} (read : normalizeValues value = .ok types) :
    ∃ texts, types = normalizeTexts texts :=
  ⟨value.listedTexts, (normalizeValues_eq_ok_iff.1 read).2.symm⟩

/-- Without a profile the catalog is empty. -/
theorem ofFields_nil : ofFields [] = .ok {} := rfl

variable {catalog : Catalog}

theorem normalized_of_ofFields {fields : List (Text × Datum)} (read : ofFields fields = .ok catalog) :
    (∃ texts, catalog.nodeTypes = normalizeTexts texts) ∧
      ∃ texts, catalog.linkTypes = normalizeTexts texts := by
  have reads := ofFields_eq_ok_iff.1 read
  exact ⟨exists_normalizeTexts reads.nodeTypes, exists_normalizeTexts reads.linkTypes⟩

/-- The types of a catalog that is read from a value are in normal form. -/
theorem normalized_of_ofDatum {value : Datum} (read : ofDatum value = .ok catalog) :
    (∃ texts, catalog.nodeTypes = normalizeTexts texts) ∧
      ∃ texts, catalog.linkTypes = normalizeTexts texts := by
  unfold ofDatum at read
  split at read
  · exact normalized_of_ofFields read
  · exact normalized_of_ofFields read

end Catalog

namespace Suggestion

/-- Whichever source the types come from, they are in normal form. -/
theorem exists_typesOf_eq {given : List Text} (normal : ∃ texts, given = Catalog.normalizeTexts texts)
    (own fallback : List Text) : ∃ texts, typesOf own (some given) fallback = Catalog.normalizeTexts texts := by
  unfold typesOf
  split
  · exact ⟨own, rfl⟩
  · split
    next first others same =>
      obtain rfl := Option.some.inj same
      exact normal
    next => exact ⟨fallback, rfl⟩

/-- A type in lower case is still offered when a beginning of it is typed. -/
theorem mem_types_of_prefix {values : List Text} {value typed : Text} (lowered : Catalog.Lowered values)
    (member : value ∈ values) (begins : typed <+: value)
    (chars : ∀ c ∈ typed, Text.isWordChar c = true) : value ∈ types values typed := by
  obtain ⟨raw, same⟩ := lowered value member
  -- Of the characters of keys only the capitals change, and a type in lower case has none.
  have own : Text.lower typed = typed := by
    apply Text.lowerAfter_eq_self
    intro c letter
    have ascii := Text.toNat_of_isWordChar (chars c letter)
    have small : c ∈ Text.lowerAfter [] raw := by
      rw [same] at begins
      exact begins.subset letter
    exact ⟨by omega, Text.not_capital_of_mem_lowerAfter small⟩
  refine List.mem_filter.2 ⟨member, ?_⟩
  rw [own]
  exact List.isPrefixOf_iff_prefix.2 begins

variable {entities : Entities} {name typed : Text}

/-- What is typed of an endpoint is the name of a node in full, in whichever case. -/
def NamesNode (entities : Entities) (typed : Text) : Prop :=
  typed ≠ [] ∧ ':' ∉ typed ∧ ∃ name ∈ entities.nodeNames, Text.lower name = Text.lower typed

/-- Short of a name in full, the names that begin with what is typed are offered. -/
theorem endpoints_eq_filter {endpoint : Option Endpoint} (noColon : ':' ∉ typed)
    (short : ¬ NamesNode entities typed) :
    endpoints typed entities endpoint = entities.nodeNames.filter (matchesTyped (Text.lower typed)) := by
  have free := Text.colon_not_mem_lower noColon
  simp only [endpoints, if_neg free]
  rw [if_neg]
  intro full
  simp only [Bool.and_eq_true, List.any_eq_true, beq_iff_eq, Bool.not_eq_true',
    List.isEmpty_eq_false_iff] at full
  obtain ⟨⟨_, filled⟩, named⟩ := full
  refine short ⟨?_, noColon, named⟩
  rintro rfl
  exact filled rfl

theorem endpoints_nil {endpoint : Option Endpoint} :
    endpoints [] entities endpoint = entities.nodeNames := by
  rw [endpoints_eq_filter (by simp) fun full => full.1 rfl]
  simp

/-- A node's name is still offered when a beginning of it is typed, unless that is a name in full. -/
theorem mem_endpoints_of_prefix {endpoint : Option Endpoint} (member : name ∈ entities.nodeNames)
    (begins : typed <+: name) (noColon : ':' ∉ typed) (kept : ¬ Text.SplitsAtSigma typed name) :
    name ∈ endpoints typed entities endpoint ∨
      endpoints typed entities endpoint = [[':']] ∧
        ∃ other ∈ entities.nodeNames, Text.lower other = Text.lower typed := by
  have free := Text.colon_not_mem_lower noColon
  have lowered := Text.lower_prefix_lower begins kept
  simp only [endpoints, if_neg free]
  split
  next full =>
    simp only [Bool.and_eq_true, List.any_eq_true, beq_iff_eq] at full
    exact .inr ⟨rfl, full.2⟩
  next => exact .inl (List.mem_filter.2 ⟨member, List.isPrefixOf_iff_prefix.2 lowered⟩)

theorem mem_nodeNames_of_mem_endpoints {endpoint : Option Endpoint}
    (member : name ∈ endpoints [] entities endpoint) : name ∈ entities.nodeNames := by
  rwa [endpoints_nil] at member

/-- Once a name is typed in full, in whichever case, a colon is all that is offered. -/
theorem endpoints_of_same_name {endpoint : Endpoint} (member : name ∈ entities.nodeNames)
    (same : Text.lower name = Text.lower typed) (filled : typed ≠ []) (noColon : ':' ∉ typed) :
    endpoints typed entities (some endpoint) = [[':']] := by
  have free := Text.colon_not_mem_lower noColon
  have given : (Text.lower typed).isEmpty = false := by simpa using Text.lower_ne_nil filled
  have full : entities.nodeNames.any (fun other => Text.lower other == Text.lower typed) = true :=
    List.any_eq_true.2 ⟨name, member, by simp [same]⟩
  simp [endpoints, free, given, full]

theorem endpoints_of_name {endpoint : Endpoint} (member : name ∈ entities.nodeNames)
    (filled : name ≠ []) (noColon : ':' ∉ name) :
    endpoints name entities (some endpoint) = [[':']] :=
  endpoints_of_same_name member rfl filled noColon

end Suggestion

namespace Lines

variable {text : Text} {lineNumber column : Int}

/-- The number of characters left of a caret on its line. -/
def caretOffset (lines : List Text) (lineNumber column : Int) : Nat :=
  (clampColumn column (get lines (caretIndex lines lineNumber)) - 1).toNat

/-- The document once a text is typed at a caret. -/
def typeAt (text : Text) (lineNumber column : Int) (typed : Text) : Text :=
  let lines := ofText text
  let offset := caretOffset lines lineNumber column
  replaceWithin text (caretIndex lines lineNumber) offset offset typed

theorem caretOffset_le (lines : List Text) (lineNumber column : Int) :
    caretOffset lines lineNumber column ≤ (get lines (caretIndex lines lineNumber)).length := by
  have bounds := clampColumn_bounds column (get lines (caretIndex lines lineNumber))
  unfold caretOffset
  omega

end Lines

namespace EditingContext

variable {text : Text} {lineNumber column indentSize : Int}

/-- Where a value is typed, the caret stands in a collection. -/
theorem area_ne_root_of_isValue
    (asked : (resolve text lineNumber column indentSize).kind.isValue = true) :
    (resolve text lineNumber column indentSize).area ≠ .root := by
  have stands := standsIn_resolve text lineNumber column indentSize
  intro root
  rw [root] at stands
  cases kind : (resolve text lineNumber column indentSize).kind with
  | nodeTypeValue | linkTypeValue | endpointValue => simp [kind, ContextKind.StandsIn] at stands
  | rootKey | rootItemKey | key | itemKey | none => simp [kind, ContextKind.isValue] at asked

/-- No kind of value admits white space. -/
theorem isBlankChar_of_admits {kind : ContextKind} {typed : Text} (value : kind.isValue = true)
    (admitted : kind.Admits typed) : ∀ c ∈ typed, Text.isBlankChar c = false := by
  cases kind with
  | nodeTypeValue | linkTypeValue =>
    exact fun c member => Text.isBlankChar_eq_false_of_isWordChar (admitted c member)
  | endpointValue => exact admitted
  | rootKey | rootItemKey | key | itemKey | none => cases value

/-- What is written where a value begins is read as the value, without white space behind it. -/
theorem ofValue?_append {area : Section} {context : EditingContext} {left typed : Text}
    (found : ofValue? area (Text.strip left) = some context) (fresh : context.typed = [])
    (admitted : context.kind.Admits (Text.stripRight typed)) :
    ofValue? area (Text.strip (left ++ typed)) =
      some { context with typed := Text.stripRight typed } := by
  obtain ⟨key, rest, cut, value, same⟩ := exists_key_of_ofValue? found
  have solid := isBlankChar_of_admits (isValue_of_ofValue? found) admitted
  obtain ⟨gap, blankGap, stripped⟩ := Text.exists_strip_append (isBlank_of_value found) solid
  have blankRest : Text.isBlank rest = true := by
    rw [← Text.stripLeft_eq_nil_iff, ← same, fresh]
  have filled : Text.afterDash (Text.strip left) ≠ [] := by
    rw [cut]
    simp
  have whole : Text.afterDash (Text.strip (left ++ typed)) =
      key ++ ':' :: (rest ++ (gap ++ Text.stripRight typed)) := by
    rw [stripped, Text.afterDash_append filled, cut, List.append_assoc, List.cons_append]
  have start : Text.stripLeft (rest ++ (gap ++ Text.stripRight typed)) = Text.stripRight typed := by
    rw [Text.stripLeft_append_of_isBlank blankRest, Text.stripLeft_append_of_isBlank blankGap]
    exact Text.stripLeft_solid solid
  have read := ofValue?_of_key value whole (by rw [start]; exact admitted)
  rwa [start] at read

/-- Where a value is typed, it is read left of the caret on a line below its governing header. -/
theorem exists_governsLine_of_isValue
    (asked : (resolve text lineNumber column indentSize).kind.isValue = true) :
    let lines := Lines.ofText text
    let index := Lines.caretIndex lines lineNumber
    let line := Lines.get lines index
    ∃ h scope, Scope.GovernsLine lines index h scope ∧ h < index ∧ scope.indent < Line.indent line ∧
      ofValue? scope.area (Text.strip (line.take (Lines.caretOffset lines lineNumber column))) =
        some (resolve text lineNumber column indentSize) := by
  intro lines index line
  have inside := area_ne_root_of_isValue asked
  have read := (resolve_eq_ofLine inside).2
  obtain ⟨h, scope, governs, _⟩ := exists_governsLine inside
  generalize resolve text lineNumber column indentSize = context at *
  have found : ofValue? scope.area
      (Text.strip (line.take (Lines.caretOffset lines lineNumber column))) = some context := by
    rw [read] at asked ⊢
    have value := ofValue?_eq_ofLine asked
    rwa [governs.governing_eq] at value
  have present : index < lines.length := Lines.caretIndex_lt lineNumber (Lines.ofText_ne_nil text)
  have plain : Scope.ofHeader? line = none := by
    have header := ofHeader?_of_value found (line.drop (Lines.caretOffset lines lineNumber column))
    rwa [List.take_append_drop] at header
  obtain ⟨below, deeper⟩ := governs.above (Lines.getElem?_eq_get present) plain
  exact ⟨h, scope, governs, below, deeper, found⟩

/-- What is typed on where a value begins is taken for the value, without white space behind it, if the
kind of the value admits it. -/
theorem resolve_typeAt {typed : Text}
    (asked : (resolve text lineNumber column indentSize).kind.isValue = true)
    (fresh : (resolve text lineNumber column indentSize).typed = []) (single : '\n' ∉ typed)
    (admitted : (resolve text lineNumber column indentSize).kind.Admits (Text.stripRight typed)) :
    let lines := Lines.ofText text
    resolve (Lines.typeAt text lineNumber column typed) (Lines.caretIndex lines lineNumber + 1)
        (Lines.caretOffset lines lineNumber column + typed.length + 1) indentSize =
      { resolve text lineNumber column indentSize with typed := Text.stripRight typed } := by
  intro lines
  obtain ⟨h, scope, governs, below, _, found⟩ := exists_governsLine_of_isValue asked
  generalize resolve text lineNumber column indentSize = context at *
  let index := Lines.caretIndex lines lineNumber
  let line := Lines.get lines index
  let offset := Lines.caretOffset lines lineNumber column
  let left := line.take offset
  let right := line.drop offset
  have present : index < lines.length := Lines.caretIndex_lt lineNumber (Lines.ofText_ne_nil text)
  have further := ofValue?_append found fresh admitted
  have held : (Lines.ofText (Lines.typeAt text lineNumber column typed))[index]? =
      some (left ++ typed ++ right) := Lines.getElem?_replaceWithin present offset offset single
  have solid := isBlank_of_value found
  have depth : Line.indent (left ++ typed ++ right) = Line.indent line := by
    have parts : line = left ++ right := (List.take_append_drop offset line).symm
    rw [parts, List.append_assoc, Line.indent, Line.indent, Text.leadingBlanks_append solid,
      Text.leadingBlanks_append solid]
  -- A line with a value is no header, neither before nor after, so it keeps the header above it.
  have above (i : Nat) (less : i < index) :
      (Lines.ofText (Lines.typeAt text lineNumber column typed))[i]? = lines[i]? :=
    Lines.getElem?_replace_of_lt present less
  have stays := governs.rewritten below above held (ofHeader?_of_value further right) depth
  have width : (left ++ typed).length = offset + typed.length := by
    rw [List.length_append, List.length_take_of_le (Lines.caretOffset_le lines lineNumber column)]
  have there := resolve_of_value held stays further indentSize
  rw [width] at there
  exact_mod_cast there

end EditingContext

namespace Completion

variable {text : Text} {lineNumber column indentSize : Int} {metadata : Metadata} {v : Vocabulary}

/-- What stands around the caret right after a text is typed there. -/
def afterTyping (text : Text) (lineNumber column : Int) (metadata : Metadata) (indentSize : Int)
    (typed : Text) : Completion :=
  let lines := Lines.ofText text
  atCaret (Lines.typeAt text lineNumber column typed) (Lines.caretIndex lines lineNumber + 1)
    (Lines.caretOffset lines lineNumber column + typed.length + 1) metadata indentSize

theorem context_atCaret : (atCaret text lineNumber column metadata indentSize).context =
    EditingContext.resolve text lineNumber column indentSize := rfl

/-- What is typed on is taken for the value. -/
theorem context_afterTyping {typed : Text} {context : EditingContext}
    (same : (atCaret text lineNumber column metadata indentSize).context = context)
    (asked : context.kind.isValue = true) (fresh : context.typed = []) (single : '\n' ∉ typed)
    (admitted : context.kind.Admits (Text.stripRight typed)) :
    (afterTyping text lineNumber column metadata indentSize typed).context =
      { context with typed := Text.stripRight typed } := by
  rw [context_atCaret] at same
  subst same
  rw [afterTyping, context_atCaret]
  exact EditingContext.resolve_typeAt asked fresh single admitted

/-- Where a type is asked for, the types of a fixed list in normal form are offered that begin with
what is typed. -/
theorem exists_normal_types_offered {kind : ContextKind}
    (profile : ∃ value, Catalog.ofDatum value = .ok v.catalog)
    (asked : kind = .nodeTypeValue ∨ kind = .linkTypeValue) (metadata : Metadata) :
    ∃ texts, ∀ c : Completion, c.context.kind = kind →
      c.suggestions metadata v = Suggestion.types (Catalog.normalizeTexts texts) c.context.typed := by
  obtain ⟨value, read⟩ := profile
  obtain ⟨nodeTypes, linkTypes⟩ := Catalog.normalized_of_ofDatum read
  rcases asked with rfl | rfl
  · obtain ⟨texts, same⟩ := Suggestion.exists_typesOf_eq nodeTypes v.nodeTypes v.fallbackNodeTypes
    refine ⟨texts, fun c kind => ?_⟩
    simp only [suggestions, Suggestion.offered, kind, ← same]
    rfl
  · obtain ⟨texts, same⟩ := Suggestion.exists_typesOf_eq linkTypes v.linkTypes v.fallbackLinkTypes
    refine ⟨texts, fun c kind => ?_⟩
    simp only [suggestions, Suggestion.offered, kind, ← same]
    rfl

/-- The types that are offered are those of a fixed list, in lower case, that begin with what is
typed. -/
theorem exists_types_offered {kind : ContextKind} (profile : ∃ value, Catalog.ofDatum value = .ok v.catalog)
    (asked : kind = .nodeTypeValue ∨ kind = .linkTypeValue) (metadata : Metadata) :
    ∃ values, Catalog.Lowered values ∧ ∀ c : Completion, c.context.kind = kind →
      c.suggestions metadata v = Suggestion.types values c.context.typed := by
  obtain ⟨texts, offered⟩ := exists_normal_types_offered profile asked metadata
  exact ⟨_, Catalog.lowered_normalizeTexts texts, offered⟩

theorem suggestions_of_endpoint {c : Completion} (asked : c.context.kind = .endpointValue) :
    c.suggestions metadata v =
      Suggestion.endpoints c.context.typed c.entities c.context.endpoint := by
  simp only [suggestions, Suggestion.offered, asked]
  rfl

/-- A value that is offered where nothing of it is typed stays offered while it is typed, as long as the
kind of the value admits what is typed. At an endpoint a name in full gives way to the colon, and so
does the offered name itself in the end. -/
theorem offered_while_typed (profile : ∃ value, Catalog.ofDatum value = .ok v.catalog) :
    let before := atCaret text lineNumber column metadata indentSize
    let after := afterTyping text lineNumber column metadata indentSize
    before.context.kind.isValue = true → before.context.typed = [] →
    ∀ offer ∈ before.suggestions metadata v,
      (∀ typed, typed <+: offer → ':' ∉ typed → '\n' ∉ typed →
        before.context.kind.Admits (Text.stripRight typed) →
        ¬ Text.SplitsAtSigma (Text.stripRight typed) offer →
        offer ∈ (after typed).suggestions metadata v ∨
          before.context.kind = .endpointValue ∧ (after typed).suggestions metadata v = [[':']] ∧
            ∃ name ∈ metadata.entities.nodeNames,
              Text.lower name = Text.lower (Text.stripRight typed)) ∧
      (before.context.kind = .endpointValue → offer ≠ [] → ':' ∉ offer →
        before.context.kind.Admits offer → (after offer).suggestions metadata v = [[':']]) := by
  intro before after asked fresh offer member
  have reads (typed : Text) (single : '\n' ∉ typed)
      (admitted : before.context.kind.Admits (Text.stripRight typed)) :
      (after typed).context = { before.context with typed := Text.stripRight typed } :=
    context_afterTyping rfl asked fresh single admitted
  have begins {typed : Text} (start : typed <+: offer) : Text.stripRight typed <+: offer :=
    (Text.stripRight_prefix typed).trans start
  -- Names and types are compared in different ways, and only names give way to the colon.
  by_cases endpoint : before.context.kind = .endpointValue
  · rw [suggestions_of_endpoint endpoint, fresh] at member
    have known : offer ∈ metadata.entities.nodeNames :=
      Suggestion.mem_nodeNames_of_mem_endpoints member
    constructor
    · intro typed start noColon single admitted kept
      have further := reads typed single admitted
      rw [suggestions_of_endpoint (by rw [further, endpoint]), further]
      have free : ':' ∉ Text.stripRight typed := fun colon =>
        noColon ((Text.stripRight_prefix typed).subset colon)
      rcases Suggestion.mem_endpoints_of_prefix known (begins start) free kept with stays | full
      · exact .inl stays
      · exact .inr ⟨endpoint, full⟩
    · intro _ filled noColon admitted
      obtain ⟨given, same⟩ :=
        Option.isSome_iff_exists.1 (EditingContext.isSome_endpoint_resolve endpoint)
      have solid := EditingContext.isBlankChar_of_admits asked admitted
      have whole : Text.stripRight offer = offer := Text.stripRight_append_solid [] filled solid
      have single : '\n' ∉ offer := by
        intro broken
        have blank := solid '\n' broken
        cases blank
      have further := reads offer single (by rw [whole]; exact admitted)
      rw [suggestions_of_endpoint (by rw [further, endpoint]), further, whole]
      rw [show before.context.endpoint = some given from same]
      exact Suggestion.endpoints_of_name known filled noColon
  · have types : before.context.kind = .nodeTypeValue ∨ before.context.kind = .linkTypeValue := by
      cases kind : before.context.kind <;> simp_all [ContextKind.isValue]
    obtain ⟨values, lowered, offered⟩ := exists_types_offered profile types metadata
    rw [offered before rfl] at member
    have known := List.mem_of_mem_filter member
    refine ⟨?_, fun other => absurd other endpoint⟩
    intro typed start _ single admitted _
    have further := reads typed single admitted
    have chars : ∀ c ∈ Text.stripRight typed, Text.isWordChar c = true := by
      rcases types with kind | kind
      · rwa [kind] at admitted
      · rwa [kind] at admitted
    left
    rw [offered (after typed) (by rw [further]), further]
    exact Suggestion.mem_types_of_prefix lowered known (begins start) chars

/-- A node's name stays while it is typed, and gives way to the colon at its end. -/
theorem core_offered_while_typed :
    let text := "nodes:\n  - name: Core\nlinks:\n  - from: ".toList
    let metadata : Metadata := .ofDocument text { nodeNames := ["Core", "Edge"] } .null
    let after := afterTyping text 4 11 metadata 2
    ("Core".toList ∈ (after "Co").suggestions metadata {} ∧
      (after "Core").suggestions metadata {} = [[':']]) := by
  intro text metadata after
  have profile : ∃ value, Catalog.ofDatum value = .ok ({} : Vocabulary).catalog :=
    ⟨.null, Catalog.ofFields_nil⟩
  have asked : (atCaret text 4 11 metadata 2).context = ⟨.endpointValue, .links, [], some .source⟩ := by
    decide
  have solid : ∀ c ∈ "Core".toList, Text.isBlankChar c = false := by simp [Text.isBlankChar]
  obtain ⟨stays, full⟩ := offered_while_typed profile (by rw [asked]; rfl) (by rw [asked]) "Core"
    (by decide)
  rw [asked] at stays full
  have started : ∀ c ∈ Text.stripRight "Co", Text.isBlankChar c = false := fun c member =>
    solid c ((by decide : Text.stripRight "Co" <+: "Core".toList).subset member)
  have noSigma : ¬ Text.SplitsAtSigma "Co" "Core" := fun splits => absurd splits.1 (by decide +kernel)
  constructor
  · rcases stays "Co" (by decide) (by decide) (by decide) started noSigma with offered | ⟨_, _, other⟩
    · exact offered
    · exact absurd other (by decide)
  · exact full rfl (by decide) (by decide) solid

/-- A type with a dot and a name with a blank in it are offered, but not any more once something behind
the blank, or the dot itself, is typed: what stands there is no value then. -/
theorem offers_lost_while_typed :
    let typing := "nodes:\n  - type: ".toList
    let typed : Metadata := .ofDocument typing {} .null
    let vocabulary : Vocabulary := { nodeTypes := ["net.switch"] }
    let linking := "links:\n  - from: ".toList
    let named : Metadata := .ofDocument linking { nodeNames := ["my node"] } .null
    ("net.".toList <+: "net.switch".toList ∧ ':' ∉ "net.".toList ∧
      (atCaret typing 2 11 typed 2).context = ⟨.nodeTypeValue, .nodes, [], none⟩ ∧
      (atCaret typing 2 11 typed 2).suggestions typed vocabulary = ["net.switch"] ∧
      (afterTyping typing 2 11 typed 2 "net.").suggestions typed vocabulary = []) ∧
    ("my n".toList <+: "my node".toList ∧ ':' ∉ "my n".toList ∧
      (atCaret linking 2 11 named 2).context = ⟨.endpointValue, .links, [], some .source⟩ ∧
      (atCaret linking 2 11 named 2).suggestions named {} = ["my node"] ∧
      (afterTyping linking 2 11 named 2 "my n").suggestions named {} = []) := by
  decide

end Completion
end GraphCompletion
