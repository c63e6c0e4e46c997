import GraphCompletion.Proofs.CatalogReading
import GraphCompletion.Proofs.SharedParses

/-!
# Malformed catalogs

A catalog loses its malformed parts and keeps the others, with two exceptions that lose it whole: a
version that is a whole number beyond the doubles, and a value without a text where a text is read. No
other value keeps a catalog from being read, whatever its fields hold, and then no request fails because
of the catalog that comes with it.
-/
namespace GraphCompletion

namespace Datum

/-- A value with no whole number beyond the doubles in it, and not too deep. -/
structure Moderate (value : Datum) : Prop where
  numbers : ∀ i ∈ value.wholeNumbers, i.natAbs < Double.wholeLimit
  depth : value.depth ≤ nestingLimit

/-- Every whole number among the doubles is short enough to be shown. -/
theorem wholeLimit_le_tenTo_digitLimit : Double.wholeLimit ≤ tenTo Number.digitLimit := by decide +kernel

theorem Moderate.hasText {value : Datum} (moderate : value.Moderate) : value.HasText where
  numbers i member := by
    rw [Number.isWritable, decide_eq_true_eq]
    exact Nat.lt_of_lt_of_le (moderate.numbers i member) wholeLimit_le_tenTo_digitLimit
  depth := moderate.depth

theorem Moderate.fitsDouble {value : Datum} {number : Version} (moderate : value.Moderate)
    (found : value.finiteNumber? = some number) : number.fitsDouble = true := by
  cases value with
  | int i =>
    cases found
    simp only [Version.fitsDouble, decide_eq_true_eq]
    exact moderate.numbers i (by simp [wholeNumbers])
  | float d =>
    obtain ⟨_, same⟩ := Option.ite_none_right_eq_some.1 found
    cases same
    rfl
  | null | bool | text | list | mapping => cases found

/-- What stands in a list is no deeper than the list and has no other numbers. -/
theorem part_of_mem {item : Datum} {items : List Datum} (member : item ∈ items) :
    (∀ i ∈ item.wholeNumbers, i ∈ itemsWholeNumbers items) ∧ item.depth ≤ itemsDepth items := by
  induction items with
  | nil => cases member
  | cons first rest ih =>
    rw [itemsWholeNumbers, itemsDepth]
    cases member with
    | head => exact ⟨fun i inside => List.mem_append_left _ inside, Nat.le_max_left _ _⟩
    | tail _ member =>
      obtain ⟨numbers, depth⟩ := ih member
      exact ⟨fun i inside => List.mem_append_right _ (numbers i inside),
        Nat.le_trans depth (Nat.le_max_right _ _)⟩

/-- The fields of a mapping go as deep as a list of their values. -/
theorem fieldsDepth_eq (fields : List (Text × Datum)) :
    fieldsDepth fields = itemsDepth (fields.map (·.2)) := by
  induction fields with
  | nil => rfl
  | cons field rest ih => rw [fieldsDepth, List.map_cons, itemsDepth, ih]

theorem fieldsWholeNumbers_eq (fields : List (Text × Datum)) :
    fieldsWholeNumbers fields = itemsWholeNumbers (fields.map (·.2)) := by
  induction fields with
  | nil => rfl
  | cons field rest ih => rw [fieldsWholeNumbers, List.map_cons, itemsWholeNumbers, ih]

/-- What stands in a moderate list is moderate. -/
theorem Moderate.mem {items : List Datum} {item : Datum} (moderate : (list items).Moderate)
    (member : item ∈ items) : item.Moderate := by
  obtain ⟨numbers, depth⟩ := part_of_mem member
  exact ⟨fun i inside => moderate.numbers i (numbers i inside),
    Nat.le_trans depth (Nat.le_of_succ_le moderate.depth)⟩

theorem Moderate.values {fields : List (Text × Datum)} (moderate : (mapping fields).Moderate) :
    (list (fields.map (·.2))).Moderate := by
  obtain ⟨numbers, depth⟩ := moderate
  rw [wholeNumbers, fieldsWholeNumbers_eq] at numbers
  rw [Datum.depth, fieldsDepth_eq] at depth
  exact ⟨numbers, depth⟩

theorem Moderate.item {value item : Datum} (moderate : value.Moderate) (member : item ∈ value.items) :
    item.Moderate := by
  cases value with
  | list items => exact moderate.mem member
  | null | bool | int | float | text | mapping => cases member

theorem Moderate.lookup {fields : List (Text × Datum)} {name : Text} {value : Datum}
    (moderate : (mapping fields).Moderate) (found : lookup name fields = some value) : value.Moderate := by
  obtain ⟨field, first, rfl⟩ := Option.map_eq_some_iff.1 found
  exact moderate.values.mem (List.mem_map_of_mem (List.mem_of_find?_eq_some first))

theorem Moderate.firstPresent {fields : List (Text × Datum)} {names : List Text} {value : Datum}
    (moderate : (mapping fields).Moderate) (found : firstPresent fields names = some value) :
    value.Moderate := by
  obtain ⟨name, _, held⟩ := List.exists_of_findSome?_eq_some found
  split at held
  next given looked =>
    obtain ⟨_, same⟩ := Option.ite_none_left_eq_some.1 held
    cases same
    exact moderate.lookup looked
  next => cases held

end Datum

namespace Catalog

open Datum (finiteNumber? firstPresent HasText Moderate)

variable {fields : List (Text × Datum)}

/-- The items that are listed under the first of some names that stands for something. -/
def itemsOf (fields : List (Text × Datum)) (names : List Text) : List Datum :=
  ((firstPresent fields names).getD .null).items

/-- Nothing in the fields keeps a catalog from being read. -/
structure Readable (fields : List (Text × Datum)) : Prop where
  texts : ∀ names ∈ [idNames, checksumNames, ["checksum"], schemaVersionNames, runtimeChecksumNames,
    resolutionChecksumNames], ∀ value, firstPresent fields names = some value → value.HasText
  version : ∀ number, firstNumber? fields versionNames = some number → number.fitsDouble = true
  types : ∀ names ∈ [nodeTypesNames, linkTypesNames], ∀ item ∈ itemsOf fields names,
    item.isEmpty = false → item.HasText
  iconSets : ∀ item ∈ itemsOf fields iconSetsNames, ReadableEntry item

/-- A catalog comes of exactly the readable fields. -/
theorem exists_ofFields_iff : (∃ catalog, ofFields fields = .ok catalog) ↔ Readable fields := by
  constructor
  · intro ⟨catalog, read⟩
    have reads := ofFields_eq_ok_iff.1 read
    constructor
    · intro names member
      simp only [List.mem_cons, List.not_mem_nil, or_false] at member
      rcases member with rfl | rfl | rfl | rfl | rfl | rfl
      · exact (firstText_eq_ok_iff.1 reads.graphTypeId).1
      · exact (firstText_eq_ok_iff.1 reads.graphTypeChecksum).1
      · exact (firstText_eq_ok_iff.1 reads.checksum).1
      · exact (firstText_eq_ok_iff.1 reads.schemaVersion).1
      · exact (firstText_eq_ok_iff.1 reads.runtimeChecksum).1
      · exact (firstText_eq_ok_iff.1 reads.iconSetResolutionChecksum).1
    · exact (firstVersion_eq_ok_iff.1 reads.graphTypeVersion).1
    · intro names member
      simp only [List.mem_cons, List.not_mem_nil, or_false] at member
      rcases member with rfl | rfl
      · exact (normalizeValues_eq_ok_iff.1 reads.nodeTypes).1
      · exact (normalizeValues_eq_ok_iff.1 reads.linkTypes).1
    · exact (firstIconSets_eq_ok_iff.1 reads.iconSets).1
  · intro readable
    have text (names : List Text) (member : names ∈ [idNames, checksumNames, ["checksum"],
        schemaVersionNames, runtimeChecksumNames, resolutionChecksumNames]) (fallback : Text) :
        firstText fields names fallback =
          .ok (((firstPresent fields names).map Datum.shown).getD fallback) :=
      firstText_eq_ok_iff.2 ⟨readable.texts names member, rfl⟩
    have types (names : List Text) (member : names ∈ [nodeTypesNames, linkTypesNames]) :
        firstTypes fields names =
          .ok (normalizeTexts ((firstPresent fields names).getD .null).listedTexts) :=
      normalizeValues_eq_ok_iff.2 ⟨readable.types names member, rfl⟩
    have version := firstVersion_eq_ok_iff.2 ⟨readable.version, rfl⟩
    have icons := firstIconSets_eq_ok_iff.2 ⟨readable.iconSets, rfl⟩
    unfold ofFields
    simp only [text idNames (by simp), version, text checksumNames (by simp), text ["checksum"] (by simp),
      text schemaVersionNames (by simp), text runtimeChecksumNames (by simp),
      text resolutionChecksumNames (by simp), types nodeTypesNames (by simp),
      types linkTypesNames (by simp), icons]
    exact ⟨_, rfl⟩

theorem readableEntry_of_moderate {value : Datum} (moderate : value.Moderate) : ReadableEntry value := by
  intro entry same
  subst same
  constructor
  · intro id found
    exact (moderate.firstPresent found).hasText
  · intro version found
    obtain ⟨given, first, number⟩ := Option.bind_eq_some_iff.1 found
    obtain ⟨name, _, looked⟩ := List.exists_of_findSome?_eq_some first
    exact (moderate.lookup looked).fitsDouble number

theorem Moderate.itemsOf {names : List Text} {item : Datum} (moderate : (Datum.mapping fields).Moderate)
    (member : item ∈ itemsOf fields names) : item.Moderate := by
  unfold Catalog.itemsOf at member
  cases found : firstPresent fields names with
  | none =>
    rw [found] at member
    cases member
  | some value =>
    rw [found] at member
    exact (moderate.firstPresent found).item member

/-- Without numbers beyond the doubles, and not too deep, whatever the fields hold can be read. -/
theorem readable_of_moderate (moderate : (Datum.mapping fields).Moderate) : Readable fields where
  texts _ _ _ found := (moderate.firstPresent found).hasText
  version number found := by
    obtain ⟨name, _, read⟩ := List.exists_of_findSome?_eq_some found
    obtain ⟨value, looked, finite⟩ := Option.bind_eq_some_iff.1 read
    exact (moderate.lookup looked).fitsDouble finite
  types _ _ _ member _ := (Moderate.itemsOf moderate member).hasText
  iconSets _ member := readableEntry_of_moderate (Moderate.itemsOf moderate member)

end Catalog

namespace Session

/-- A request fails because of its catalog only if the catalog fails. -/
theorem readCatalog_of_complete_error {session : Session} {request : CompletionRequest}
    {settings : Settings} {error : Catalog.Error}
    (failed : (session.complete request settings).answer = .error (.catalog error)) :
    request.readCatalog = .error error := by
  rw [complete_answer] at failed
  unfold answerFrom at failed
  split at failed
  · cases failed
  next metadata _ =>
    unfold CompletionRequest.answer at failed
    cases read : request.readCatalog with
    | error other =>
      rw [read] at failed
      cases failed
      rfl
    | ok catalog =>
      rw [read] at failed
      cases failed

end Session

namespace Catalog

open Datum (firstPresent)

/-- A catalog comes of everything but the values that cannot be read, and of what holds no number beyond
the doubles and is not too deep in any case. It has the first finite version that is given, and those of
its icon sets, in order, that have an id which is not blank and a positive finite version; and no request
fails because of a catalog that can be read. -/
theorem malformed_parts_are_lost (raw : Datum) :
    ((∃ catalog, ofDatum raw = .ok catalog) ↔ Readable raw.fields) ∧
    (raw.Moderate → Readable raw.fields) ∧
    (∀ catalog, ofDatum raw = .ok catalog →
      catalog.graphTypeVersion = (firstNumber? raw.fields versionNames).getD (.int 0) ∧
        catalog.iconSets = (itemsOf raw.fields iconSetsNames).filterMap keptIconSet?) ∧
    (Readable raw.fields → ∀ (session : Session) (request : CompletionRequest) settings,
      request.catalog.getD [] = raw.fields →
        ∀ error, (session.complete request settings).answer ≠ .error (.catalog error)) := by
  rw [ofDatum_eq_ofFields]
  refine ⟨exists_ofFields_iff, ?moderate, ?parts, ?request⟩
  case moderate =>
    intro moderate
    cases raw with
    | mapping fields => exact readable_of_moderate moderate
    | null | bool | int | float | text | list => exact exists_ofFields_iff.1 ⟨{}, rfl⟩
  case parts =>
    intro catalog read
    have reads := ofFields_eq_ok_iff.1 read
    exact ⟨(firstVersion_eq_ok_iff.1 reads.graphTypeVersion).2.symm,
      (firstIconSets_eq_ok_iff.1 reads.iconSets).2.symm⟩
  case request =>
    intro readable session request settings same error failed
    obtain ⟨catalog, read⟩ := exists_ofFields_iff.2 readable
    have failure := Session.readCatalog_of_complete_error failed
    rw [CompletionRequest.readCatalog, same, read] at failure
    cases failure

/-- Of these fields one id, one version, one type and one icon set are left. -/
theorem malformed_parts_are_lost_beside_others :
    let raw : Datum := .mapping [
      ("graphTypeId", .list []), ("profile_id", .text "p"),
      ("graphTypeVersion", .float .nan), ("profileVersion", .int 3),
      ("nodeTypes", .list [.null, .text " Server ", .text "server"]),
      ("iconSetSources", .list [.null,
        .mapping [("iconSetId", .text " "), ("iconSetVersion", .int 1)],
        .mapping [("iconSetId", .text "a"), ("iconSetVersion", .float (.infinity false))],
        .mapping [("icon_set_id", .text " B "), ("icon_set_version", .int 2)]])]
    (∃ catalog, ofDatum raw = .ok catalog ∧ catalog.graphTypeVersion = .int 3 ∧
      catalog.iconSets = [⟨"b", .int 2⟩]) ∧
    ∀ error, ((Session.start none {}).complete { catalog := some raw.fields } {}).answer ≠
      .error (.catalog error) := by
  intro raw
  obtain ⟨comes, moderates, parts, requests⟩ := malformed_parts_are_lost raw
  have moderate : raw.Moderate := ⟨by decide +kernel, by decide +kernel⟩
  have readable := moderates moderate
  obtain ⟨catalog, read⟩ := comes.2 readable
  obtain ⟨version, icons⟩ := parts catalog read
  have number : (firstNumber? raw.fields versionNames).getD (.int 0) = .int 3 := by decide
  have kept : (itemsOf raw.fields iconSetsNames).filterMap keptIconSet? = [⟨"b", .int 2⟩] := by
    decide
  exact ⟨⟨catalog, read, version.trans number, icons.trans kept⟩, requests readable _ _ _ rfl⟩

/-- One icon set whose version is a whole number far below zero loses the catalog with all other icon
sets, and the request with it. So does an id that is too long a number or too deep a list. -/
theorem catalog_is_lost_with_icon_set :
    let raw : Datum := .mapping [("iconSetSources", .list [
      .mapping [("iconSetId", .text "a"), ("iconSetVersion", .int (-(tenTo 400 : Int)))],
      .mapping [("iconSetId", .text "b"), ("iconSetVersion", .int 1)]])]
    ((itemsOf raw.fields iconSetsNames).filterMap keptIconSet? = [⟨"b", .int 1⟩] ∧
      ofDatum raw = .error .versionTooLarge ∧
      ((Session.start none {}).complete { catalog := some raw.fields } {}).answer =
        .error (.catalog .versionTooLarge)) ∧
    ofDatum (.mapping [("graphTypeId", .int (tenTo 4300 : Int))]) = .error (.noText .numberTooLong) ∧
    ofDatum (.mapping [("graphTypeId", Nat.repeat (fun value => .list [value]) 1000 .null)]) =
      .error (.noText .nestedTooDeep) := by
  decide +kernel

end Catalog
end GraphCompletion
