import GraphCompletion.Catalog
import GraphCompletion.Proofs.Trimming

/-!
# What a catalog is read from

A catalog is read part by part, and each part has its own way to fail: a text may be too long or too
deeply nested, a number may be beyond the doubles. Every step of the reading comes with the exact
condition under which it gives a result, and with that result.
-/
namespace GraphCompletion

/-- A step and what follows it succeed together. -/
theorem bind_eq_ok_iff {ε α β : Type} {step : Except ε α} {next : α → Except ε β} {result : β} :
    (step >>= next) = .ok result ↔ ∃ value, step = .ok value ∧ next value = .ok result := by
  cases step with
  | error fault => simp [bind, Except.bind]
  | ok value => simp [bind, Except.bind]

theorem map_eq_ok_iff {ε α β : Type} {step : Except ε α} {f : α → β} {result : β} :
    step.map f = .ok result ↔ ∃ value, step = .ok value ∧ f value = result := by
  cases step <;> simp [Except.map]

namespace Datum

mutual

/-- How many lists and mappings stand in one another. -/
def depth : Datum → Nat
  | list items => itemsDepth items + 1
  | mapping fields => fieldsDepth fields + 1
  | null | bool _ | int _ | float _ | text _ => 0

def itemsDepth : List Datum → Nat
  | [] => 0
  | item :: rest => max (depth item) (itemsDepth rest)

def fieldsDepth : List (Text × Datum) → Nat
  | [] => 0
  | (_, value) :: rest => max (depth value) (fieldsDepth rest)

end

mutual

/-- The whole numbers in a value. -/
def wholeNumbers : Datum → List Int
  | int i => [i]
  | list items => itemsWholeNumbers items
  | mapping fields => fieldsWholeNumbers fields
  | null | bool _ | float _ | text _ => []

def itemsWholeNumbers : List Datum → List Int
  | [] => []
  | item :: rest => wholeNumbers item ++ itemsWholeNumbers rest

def fieldsWholeNumbers : List (Text × Datum) → List Int
  | [] => []
  | (_, value) :: rest => wholeNumbers value ++ fieldsWholeNumbers rest

end

/-- A value that can be shown: its numbers are not too long, and it does not go too deep. -/
structure HasText (value : Datum) : Prop where
  numbers : ∀ i ∈ value.wholeNumbers, Number.isWritable i = true
  depth : value.depth ≤ nestingLimit

/-- One level further in there is one level less of room. -/
theorem levelFault_eq_none_iff {inner : Option TextFault} {written : Prop} {levels room : Nat}
    (inside : inner = none ↔ written ∧ levels ≤ room - 1) :
    (if room = 0 then some .nestedTooDeep else inner) = none ↔ written ∧ levels + 1 ≤ room := by
  split
  next full =>
    have deeper : ¬ levels + 1 ≤ room := by omega
    simp [deeper]
  next more =>
    have step : levels ≤ room - 1 ↔ levels + 1 ≤ room := by omega
    rw [inside, step]

-- The induction is on the value; only on the way into a list or a mapping the room gets smaller.
mutual

theorem faultWithin?_eq_none_iff (value : Datum) (room : Nat) :
    value.faultWithin? room = none ↔
      (∀ i ∈ value.wholeNumbers, Number.isWritable i = true) ∧ value.depth ≤ room := by
  cases value with
  | null | bool | float | text => simp [faultWithin?, wholeNumbers, depth]
  | int i => simp [faultWithin?, wholeNumbers, depth]
  | list items => exact levelFault_eq_none_iff (itemsFaultWithin?_eq_none_iff items (room - 1))
  | mapping fields => exact levelFault_eq_none_iff (fieldsFaultWithin?_eq_none_iff fields (room - 1))

theorem itemsFaultWithin?_eq_none_iff (items : List Datum) (room : Nat) :
    itemsFaultWithin? items room = none ↔
      (∀ i ∈ itemsWholeNumbers items, Number.isWritable i = true) ∧ itemsDepth items ≤ room := by
  cases items with
  | nil => simp [itemsFaultWithin?, itemsWholeNumbers, itemsDepth]
  | cons item rest =>
    have first := faultWithin?_eq_none_iff item room
    have others := itemsFaultWithin?_eq_none_iff rest room
    simp only [itemsFaultWithin?, itemsWholeNumbers, itemsDepth, Option.or_eq_none_iff, first, others,
      List.forall_mem_append, Nat.max_le, and_and_and_comm]

theorem fieldsFaultWithin?_eq_none_iff (fields : List (Text × Datum)) (room : Nat) :
    fieldsFaultWithin? fields room = none ↔
      (∀ i ∈ fieldsWholeNumbers fields, Number.isWritable i = true) ∧ fieldsDepth fields ≤ room := by
  cases fields with
  | nil => simp [fieldsFaultWithin?, fieldsWholeNumbers, fieldsDepth]
  | cons field rest =>
    have first := faultWithin?_eq_none_iff field.2 room
    have others := fieldsFaultWithin?_eq_none_iff rest room
    simp only [fieldsFaultWithin?, fieldsWholeNumbers, fieldsDepth, Option.or_eq_none_iff, first, others,
      List.forall_mem_append, Nat.max_le, and_and_and_comm]

end

theorem textFault?_eq_none_iff (value : Datum) : value.textFault? = none ↔ value.HasText := by
  rw [textFault?, faultWithin?_eq_none_iff]
  exact ⟨fun ⟨numbers, depth⟩ => ⟨numbers, depth⟩, fun shown => ⟨shown.numbers, shown.depth⟩⟩

/-- The items of a list; any other value has none. -/
def items : Datum → List Datum
  | list items => items
  | _ => []

/-- The fields of a mapping; any other value has none. -/
def fields : Datum → List (Text × Datum)
  | mapping fields => fields
  | _ => []

/-- The text of a value, nothing for one that stands for nothing. -/
def shownOrBlank (value : Datum) : Text := if value.isEmpty then [] else value.shown

/-- The texts that a value lists; a text is a list of its own. -/
def listedTexts : Datum → List Text
  | text t => [t]
  | value => value.items.map shownOrBlank

/-- The finite number that a value is, a whole number of any size among them. -/
def finiteNumber? : Datum → Option Version
  | int i => some (.int i)
  | float d => if d.isFinite then some (.float d) else none
  | _ => none

theorem finiteNumber?_getD (value : Option Datum) :
    (value.getD .null).finiteNumber? = value.bind finiteNumber? := by
  cases value <;> rfl

end Datum

/-- The number is no whole number beyond the doubles. -/
def Version.fitsDouble : Version → Bool
  | .int i => i.natAbs < Double.wholeLimit
  | .float _ => true

namespace Catalog

open Datum (finiteNumber? firstPresent HasText)

variable {fields : List (Text × Datum)} {names : List Text}

theorem version?_eq_ok_iff {value : Datum} {version : Option Version} :
    version? value = .ok version ↔
      (∀ number, value.finiteNumber? = some number → number.fitsDouble = true) ∧
        value.finiteNumber? = version := by
  cases value with
  | int i =>
    by_cases fits : i.natAbs < Double.wholeLimit <;>
      simp [version?, Double.ofInt?, finiteNumber?, Version.fitsDouble, fits]
  | float d => cases finite : d.isFinite <;> simp [version?, finiteNumber?, finite, Version.fitsDouble]
  | null | bool | text | list | mapping => simp [version?, finiteNumber?]

/-- The first finite number among fields. -/
def firstNumber? (fields : List (Text × Datum)) (names : List Text) : Option Version :=
  names.findSome? fun name => (Datum.lookup name fields).bind finiteNumber?

theorem firstVersion_eq_ok_iff {version : Version} :
    firstVersion fields names = .ok version ↔
      (∀ number, firstNumber? fields names = some number → number.fitsDouble = true) ∧
        (firstNumber? fields names).getD (.int 0) = version := by
  induction names with
  | nil => simp [firstVersion, firstNumber?]
  | cons name names ih =>
    rw [firstNumber?, List.findSome?_cons, firstVersion, bind_eq_ok_iff]
    simp only [version?_eq_ok_iff, Datum.finiteNumber?_getD]
    cases (Datum.lookup name fields).bind finiteNumber? with
    | none => simpa [firstNumber?] using ih
    | some number => simp [pure, Except.pure]

theorem textOf_eq_ok_iff {value : Datum} {text : Text} :
    textOf value = .ok text ↔ value.HasText ∧ value.shown = text := by
  rw [← Datum.textFault?_eq_none_iff]
  unfold textOf
  cases value.textFault? <;> simp

theorem firstText_eq_ok_iff {fallback text : Text} :
    firstText fields names fallback = .ok text ↔
      (∀ value, firstPresent fields names = some value → value.HasText) ∧
        ((firstPresent fields names).map Datum.shown).getD fallback = text := by
  unfold firstText
  cases firstPresent fields names with
  | none => simp
  | some value => simp [textOf_eq_ok_iff]

theorem textOrBlank_eq_ok_iff {value : Datum} {text : Text} :
    textOrBlank value = .ok text ↔
      (value.isEmpty = false → value.HasText) ∧ value.shownOrBlank = text := by
  unfold textOrBlank Datum.shownOrBlank
  cases empty : value.isEmpty <;> simp [textOf_eq_ok_iff]

theorem readTexts_eq_ok_iff {items : List Datum} {texts : List Text} :
    readTexts items = .ok texts ↔
      (∀ item ∈ items, item.isEmpty = false → item.HasText) ∧
        items.map Datum.shownOrBlank = texts := by
  induction items generalizing texts with
  | nil => simp [readTexts]
  | cons item rest ih =>
    simp only [readTexts, bind_eq_ok_iff, textOrBlank_eq_ok_iff, ih, pure, Except.pure, Except.ok.injEq,
      List.forall_mem_cons, List.map_cons]
    constructor
    · rintro ⟨_, ⟨first, rfl⟩, _, ⟨others, rfl⟩, same⟩
      exact ⟨⟨first, others⟩, same⟩
    · rintro ⟨⟨first, others⟩, same⟩
      exact ⟨_, ⟨first, rfl⟩, _, ⟨others, rfl⟩, same⟩

@[simp] theorem normalizeTexts_nil : normalizeTexts [] = [] := rfl

theorem normalizeValues_eq_ok_iff {value : Datum} {types : List Text} :
    normalizeValues value = .ok types ↔
      (∀ item ∈ value.items, item.isEmpty = false → item.HasText) ∧
        normalizeTexts value.listedTexts = types := by
  cases value with
  | list items =>
    simp [normalizeValues, map_eq_ok_iff, readTexts_eq_ok_iff, Datum.items, Datum.listedTexts, and_assoc]
  | null | bool | int | float | text | mapping =>
    simp [normalizeValues, Datum.items, Datum.listedTexts]

/-- The version that an entry gives, if it is a finite number. -/
def entryVersion? (entry : List (Text × Datum)) : Option Version :=
  (Datum.firstGiven entry iconVersionNames).bind finiteNumber?

/-- The icon set of an entry that has an id which is not blank and a positive version. -/
def keptIconSet? : Datum → Option IconSet
  | .mapping entry =>
    let id := ((firstPresent entry iconIdNames).map Datum.shown).getD []
    (entryVersion? entry).bind fun version =>
      if Text.isBlank id = false ∧ version.isPositive = true then
        some ⟨Text.lower (Text.strip id), version⟩
      else none
  | _ => none

/-- An entry whose id has a text and whose version is no whole number beyond the doubles. -/
def ReadableEntry (value : Datum) : Prop :=
  ∀ entry, value = .mapping entry →
    (∀ id, firstPresent entry iconIdNames = some id → id.HasText) ∧
      ∀ version, entryVersion? entry = some version → version.fitsDouble = true

theorem iconSet?_eq_ok_iff {value : Datum} {set : Option IconSet} :
    iconSet? value = .ok set ↔ ReadableEntry value ∧ keptIconSet? value = set := by
  cases value with
  | mapping entry =>
    simp only [iconSet?, bind_eq_ok_iff, firstText_eq_ok_iff, version?_eq_ok_iff,
      Datum.finiteNumber?_getD, ReadableEntry, keptIconSet?, entryVersion?, Datum.mapping.injEq,
      forall_eq', pure, Except.pure, Except.ok.injEq]
    cases (Datum.firstGiven entry iconVersionNames).bind finiteNumber? with
    | none => simp
    | some version => simp [Text.lower_strip_eq_nil_iff, and_assoc]
  | null | bool | int | float | text | list => simp [iconSet?, ReadableEntry, keptIconSet?]

theorem readIconSets_eq_ok_iff {items : List Datum} {sets : List IconSet} :
    readIconSets items = .ok sets ↔
      (∀ item ∈ items, ReadableEntry item) ∧ items.filterMap keptIconSet? = sets := by
  induction items generalizing sets with
  | nil => simp [readIconSets]
  | cons item rest ih =>
    simp only [readIconSets, bind_eq_ok_iff, iconSet?_eq_ok_iff, ih, pure, Except.pure, Except.ok.injEq,
      List.forall_mem_cons]
    constructor
    · rintro ⟨_, ⟨first, rfl⟩, _, ⟨others, rfl⟩, same⟩
      refine ⟨⟨first, others⟩, ?_⟩
      rw [← same]
      cases kept : keptIconSet? item <;> simp [kept]
    · rintro ⟨⟨first, others⟩, same⟩
      refine ⟨_, ⟨first, rfl⟩, _, ⟨others, rfl⟩, ?_⟩
      rw [← same]
      cases kept : keptIconSet? item <;> simp [kept]

theorem firstIconSets_eq_ok_iff {sets : List IconSet} :
    firstIconSets fields names = .ok sets ↔
      (∀ item ∈ ((firstPresent fields names).getD .null).items, ReadableEntry item) ∧
        ((firstPresent fields names).getD .null).items.filterMap keptIconSet? = sets := by
  unfold firstIconSets
  split
  next items found => rw [found]; exact readIconSets_eq_ok_iff
  next other =>
    have none : ((firstPresent fields names).getD .null).items = [] := by
      cases found : firstPresent fields names with
      | none => rfl
      | some value => cases value <;> first | rfl | exact absurd found (other _)
    simp [none]

/-- What the fields of a mapping say of a catalog, part by part. -/
structure Reads (fields : List (Text × Datum)) (catalog : Catalog) : Prop where
  graphTypeId : firstText fields idNames = .ok catalog.graphTypeId
  graphTypeVersion : firstVersion fields versionNames = .ok catalog.graphTypeVersion
  graphTypeChecksum : firstText fields checksumNames = .ok catalog.graphTypeChecksum
  checksum : firstText fields ["checksum"] catalog.graphTypeChecksum = .ok catalog.checksum
  schemaVersion : firstText fields schemaVersionNames "v1" = .ok catalog.schemaVersion
  runtimeChecksum : firstText fields runtimeChecksumNames = .ok catalog.runtimeChecksum
  iconSetResolutionChecksum :
    firstText fields resolutionChecksumNames = .ok catalog.iconSetResolutionChecksum
  nodeTypes : firstTypes fields nodeTypesNames = .ok catalog.nodeTypes
  linkTypes : firstTypes fields linkTypesNames = .ok catalog.linkTypes
  iconSets : firstIconSets fields iconSetsNames = .ok catalog.iconSets
  profileId : catalog.profileId = catalog.graphTypeId
  profileVersion : catalog.profileVersion = catalog.graphTypeVersion
  profileChecksum : catalog.profileChecksum = catalog.graphTypeChecksum

theorem ofFields_eq_ok_iff : ofFields fields = .ok catalog ↔ Reads fields catalog := by
  unfold ofFields
  constructor
  · intro read
    simp only [bind_eq_ok_iff] at read
    obtain ⟨_, id, _, version, _, typeChecksum, _, checksum, _, schema, _, runtime, _, resolution,
      _, nodes, _, links, _, icons, same⟩ := read
    cases same
    exact ⟨id, version, typeChecksum, checksum, schema, runtime, resolution, nodes, links, icons,
      rfl, rfl, rfl⟩
  · intro reads
    simp only [bind_eq_ok_iff]
    refine ⟨_, reads.graphTypeId, _, reads.graphTypeVersion, _, reads.graphTypeChecksum, _,
      reads.checksum, _, reads.schemaVersion, _, reads.runtimeChecksum, _,
      reads.iconSetResolutionChecksum, _, reads.nodeTypes, _, reads.linkTypes, _, reads.iconSets, ?_⟩
    have id := reads.profileId
    have version := reads.profileVersion
    have checksum := reads.profileChecksum
    cases catalog
    simp only at id version checksum
    subst id version checksum
    rfl

theorem ofDatum_eq_ofFields (raw : Datum) : ofDatum raw = ofFields raw.fields := by
  cases raw <;> rfl

end Catalog
end GraphCompletion
