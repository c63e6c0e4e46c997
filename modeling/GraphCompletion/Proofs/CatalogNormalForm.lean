import GraphCompletion.Proofs.CatalogReading
import GraphCompletion.Proofs.Narrowing

/-!
# The normal form of catalogs

A catalog that is read has its profile fields mirrored, its types and icon ids stripped and in lower
case, and a checksum exactly if it has a type checksum. That is all it takes to read it back: written out
as a mapping, under either spelling of its fields, a catalog in normal form stays as it is, though its
identity and its checksums stand in for one another there.
-/
namespace GraphCompletion

theorem Number.intText_ne_nil (i : Int) : intText i ≠ [] := by
  unfold intText natText
  split
  · exact List.cons_ne_nil _ _
  · exact Nat.toDigits_ne_nil

namespace Double

theorem positional_ne_nil (digits : Text) (places : Int) : positional digits places ≠ [] := by
  unfold positional
  split
  · simp
  · split <;> simp

theorem scientific_ne_nil (l : DoubleLayout) (digits : Text) (power : Int) :
    scientific l digits power ≠ [] := by
  simp [scientific]

theorem toText_ne_nil (d : Double) : d.toText ≠ [] := by
  unfold toText render
  split
  · decide
  · dsimp only
    split
    · exact List.append_ne_nil_of_right_ne_nil _ (by decide)
    · split
      · exact List.append_ne_nil_of_right_ne_nil _ (positional_ne_nil _ _)
      · split
        · exact List.append_ne_nil_of_right_ne_nil _ (scientific_ne_nil _ _ _)
        · exact List.append_ne_nil_of_right_ne_nil _ (positional_ne_nil _ _)

end Double

namespace Datum

variable {fields : List (Text × Datum)} {names : List Text}

/-- The values of the named fields that are there, in the order of the names. -/
def given (fields : List (Text × Datum)) (names : List Text) : List Datum :=
  names.filterMap fun name => lookup name fields

theorem firstPresent_eq_find? :
    firstPresent fields names = (given fields names).find? fun value => !value.isEmpty := by
  induction names with
  | nil => rfl
  | cons name names ih =>
    rw [firstPresent, given] at ih
    rw [firstPresent, List.findSome?_cons, given, List.filterMap_cons]
    cases lookup name fields with
    | none => exact ih
    | some value =>
      cases empty : value.isEmpty
      · simp [empty]
      · simp only [empty, ↓reduceIte, Bool.not_true, Bool.false_eq_true, not_false_eq_true,
          List.find?_cons_of_neg]
        exact ih

/-- What stands for something is shown as something. -/
theorem shown_ne_nil {value : Datum} (filled : value.isEmpty = false) : value.shown ≠ [] := by
  cases value with
  | null => cases filled
  | bool b => cases b <;> decide
  | int i => exact Number.intText_ne_nil i
  | float d => exact d.toText_ne_nil
  | text t => simpa [isEmpty, shown] using filled
  | list | mapping => exact List.cons_ne_nil _ _

theorem hasText_text (t : Text) : (text t).HasText where
  numbers _ member := by cases member
  depth := Nat.zero_le _

end Datum

/-- The number as an untyped value. -/
def Version.toDatum : Version → Datum
  | .int i => .int i
  | .float d => .float d

/-- A finite number that is not beyond the doubles. -/
structure Version.Normal (version : Version) : Prop where
  finite : version.toDatum.finiteNumber? = some version
  fits : version.fitsDouble = true

theorem Datum.eq_toDatum_of_finiteNumber? {value : Datum} {version : Version}
    (found : value.finiteNumber? = some version) : value = version.toDatum := by
  cases value with
  | int i =>
    cases found
    rfl
  | float d =>
    obtain ⟨_, same⟩ := Option.ite_none_right_eq_some.1 found
    cases same
    rfl
  | null | bool | text | list | mapping => cases found

theorem Version.normal_of_finiteNumber? {value : Datum} {version : Version}
    (found : value.finiteNumber? = some version) (fits : version.fitsDouble = true) : version.Normal := by
  refine ⟨?_, fits⟩
  rw [← Datum.eq_toDatum_of_finiteNumber? found]
  exact found

namespace Catalog

open Datum (firstPresent given lookup)

/-- Either way of spelling the names of fields. -/
inductive Casing where
  | camel
  | snake
  deriving DecidableEq, Repr

/-- The spelling of a name, given both. -/
def Casing.spell (camelName snakeName : Text) : Casing → Text
  | camel => camelName
  | snake => snakeName

/-- The fields of an icon set. -/
def iconFields (casing : Casing) (set : IconSet) : List (Text × Datum) := [
  (casing.spell "iconSetId" "icon_set_id", .text set.id),
  (casing.spell "iconSetVersion" "icon_set_version", set.version.toDatum)]

/-- An icon set as a mapping. -/
def iconDatum (casing : Casing) (set : IconSet) : Datum := .mapping (iconFields casing set)

/-- A list of texts as an untyped value. -/
def textsDatum (texts : List Text) : Datum := .list (texts.map .text)

/-- All fields of a catalog, with the icon sets as mappings. -/
def toFields (outer inner : Casing) (catalog : Catalog) : List (Text × Datum) := [
  (outer.spell "schemaVersion" "schema_version", .text catalog.schemaVersion),
  (outer.spell "graphTypeId" "graph_type_id", .text catalog.graphTypeId),
  (outer.spell "graphTypeVersion" "graph_type_version", catalog.graphTypeVersion.toDatum),
  (outer.spell "graphTypeChecksum" "graph_type_checksum", .text catalog.graphTypeChecksum),
  (outer.spell "runtimeChecksum" "runtime_checksum", .text catalog.runtimeChecksum),
  (outer.spell "profileId" "profile_id", .text catalog.profileId),
  (outer.spell "profileVersion" "profile_version", catalog.profileVersion.toDatum),
  (outer.spell "profileChecksum" "profile_checksum", .text catalog.profileChecksum),
  (outer.spell "iconSetResolutionChecksum" "icon_set_resolution_checksum",
    .text catalog.iconSetResolutionChecksum),
  ("checksum", .text catalog.checksum),
  (outer.spell "nodeTypes" "node_types", textsDatum catalog.nodeTypes),
  (outer.spell "linkTypes" "link_types", textsDatum catalog.linkTypes),
  (outer.spell "iconSetSources" "icon_set_sources", .list (catalog.iconSets.map (iconDatum inner)))]

/-- A catalog as a mapping of all its fields. -/
def toDatum (outer inner : Casing) (catalog : Catalog) : Datum := .mapping (catalog.toFields outer inner)

/-! ## Lists of types -/

theorem eraseDups_of_nodup {texts : List Text} (distinct : texts.Nodup) : texts.eraseDups = texts := by
  induction texts with
  | nil => rfl
  | cons t rest ih =>
    obtain ⟨fresh, distinct⟩ := List.nodup_cons.1 distinct
    have kept : rest.filter (fun other => !other == t) = rest :=
      List.filter_eq_self.2 fun other member => by
        simp only [Bool.not_eq_true', beq_eq_false_iff_ne]
        rintro rfl
        exact fresh member
    rw [List.eraseDups_cons, kept, ih distinct]

theorem normal_of_mem_normalizeTexts {texts : List Text} {t : Text} (member : t ∈ normalizeTexts texts) :
    Text.Normal t := by
  obtain ⟨inside, filled⟩ := List.mem_filter.1 (List.mem_eraseDups.1 member)
  obtain ⟨raw, _, rfl⟩ := List.mem_map.1 inside
  apply Text.normal_lower_strip
  rw [Bool.eq_false_iff, ne_eq, ← Text.lower_strip_eq_nil_iff]
  simpa using filled

/-- Distinct texts in normal form are their own normal form. -/
theorem normalizeTexts_eq_self {texts : List Text} (normal : ∀ t ∈ texts, Text.Normal t)
    (distinct : texts.Nodup) : normalizeTexts texts = texts := by
  have same : texts.map (fun t => Text.lower (Text.strip t)) = texts :=
    (List.map_congr_left fun t member => (normal t member).lower_strip).trans (List.map_id' texts)
  have filled : texts.filter (fun t => !t.isEmpty) = texts :=
    List.filter_eq_self.2 fun t member => by simpa using (normal t member).ne_nil
  rw [normalizeTexts, same, filled, eraseDups_of_nodup distinct]

theorem normalizeTexts_normalizeTexts (texts : List Text) :
    normalizeTexts (normalizeTexts texts) = normalizeTexts texts :=
  normalizeTexts_eq_self (fun _ => normal_of_mem_normalizeTexts) (nodup_normalizeTexts texts)

theorem listedTexts_textsDatum (texts : List Text) : (textsDatum texts).listedTexts = texts := by
  have same : ∀ t : Text, (Datum.text t).shownOrBlank = t := fun t => by cases t <;> rfl
  simp [textsDatum, Datum.listedTexts, Datum.items, Function.comp_def, same]

theorem normalizeValues_textsDatum (texts : List Text) :
    normalizeValues (textsDatum texts) = .ok (normalizeTexts texts) := by
  rw [normalizeValues_eq_ok_iff, listedTexts_textsDatum]
  refine ⟨?_, rfl⟩
  intro item member _
  obtain ⟨t, _, rfl⟩ := List.mem_map.1 (show item ∈ texts.map Datum.text from member)
  exact Datum.hasText_text t

/-! ## Icon sets -/

/-- An icon set as a catalog holds it. -/
structure NormalIconSet (set : IconSet) : Prop where
  id : Text.Normal set.id
  version : set.version.Normal
  positive : set.version.isPositive = true

theorem normal_of_keptIconSet? {value : Datum} {set : IconSet} (readable : ReadableEntry value)
    (kept : keptIconSet? value = some set) : NormalIconSet set := by
  cases value with
  | mapping entry =>
    obtain ⟨version, found, chosen⟩ := Option.bind_eq_some_iff.1 kept
    obtain ⟨⟨solid, positive⟩, same⟩ := Option.ite_none_right_eq_some.1 chosen
    cases same
    obtain ⟨_, _, finite⟩ := Option.bind_eq_some_iff.1 found
    have fits : version.fitsDouble = true := (readable entry rfl).2 version found
    exact ⟨Text.normal_lower_strip solid, Version.normal_of_finiteNumber? finite fits, positive⟩
  | null | bool | int | float | text | list => cases kept

theorem entryVersion?_iconFields (casing : Casing) {set : IconSet} (normal : NormalIconSet set) :
    entryVersion? (iconFields casing set) = some set.version := by
  have first : Datum.firstGiven (iconFields casing set) iconVersionNames =
      some set.version.toDatum := by
    cases casing <;> rfl
  rw [entryVersion?, first]
  exact normal.version.finite

theorem firstPresent_iconFields (casing : Casing) {set : IconSet} (normal : NormalIconSet set) :
    firstPresent (iconFields casing set) iconIdNames = some (.text set.id) := by
  have ids : given (iconFields casing set) iconIdNames = [.text set.id] := by
    cases casing <;> rfl
  have filled : (Datum.text set.id).isEmpty = false := by
    simpa [Datum.isEmpty] using normal.id.ne_nil
  rw [Datum.firstPresent_eq_find?, ids]
  simp [filled]

theorem readableEntry_iconDatum (casing : Casing) {set : IconSet} (normal : NormalIconSet set) :
    ReadableEntry (iconDatum casing set) := by
  intro entry same
  cases same
  constructor
  · intro id found
    cases (firstPresent_iconFields casing normal).symm.trans found
    exact Datum.hasText_text set.id
  · intro version found
    cases (entryVersion?_iconFields casing normal).symm.trans found
    exact normal.version.fits

/-- An icon set is kept as it is when it is read back. -/
theorem keptIconSet?_iconDatum (casing : Casing) {set : IconSet} (normal : NormalIconSet set) :
    keptIconSet? (iconDatum casing set) = some set := by
  simp [keptIconSet?, iconDatum, firstPresent_iconFields casing normal,
    entryVersion?_iconFields casing normal, Datum.shown, normal.id.solid, normal.positive,
    normal.id.lower_strip]

/-! ## Whole catalogs -/

/-- A catalog as it is read from fields. -/
structure Normal (catalog : Catalog) : Prop where
  version : catalog.graphTypeVersion.Normal
  checksum : catalog.checksum = [] ↔ catalog.graphTypeChecksum = []
  schemaVersion : catalog.schemaVersion ≠ []
  nodeTypes : normalizeTexts catalog.nodeTypes = catalog.nodeTypes
  linkTypes : normalizeTexts catalog.linkTypes = catalog.linkTypes
  iconSets : ∀ set ∈ catalog.iconSets, NormalIconSet set
  profileId : catalog.profileId = catalog.graphTypeId
  profileVersion : catalog.profileVersion = catalog.graphTypeVersion
  profileChecksum : catalog.profileChecksum = catalog.graphTypeChecksum

variable {fields : List (Text × Datum)} {names : List Text} {catalog : Catalog}

/-- Only the fallback of a text can be empty while something is there. -/
theorem eq_fallback_of_firstText {fallback : Text} (read : firstText fields names fallback = .ok []) :
    firstPresent fields names = none ∧ fallback = [] := by
  obtain ⟨_, shown⟩ := firstText_eq_ok_iff.1 read
  cases found : firstPresent fields names with
  | none =>
    rw [found] at shown
    exact ⟨rfl, shown⟩
  | some value =>
    rw [found] at shown
    exact absurd shown (Datum.shown_ne_nil (Datum.isEmpty_eq_false_of_firstPresent found))

theorem normal_firstVersion {version : Version} (read : firstVersion fields names = .ok version) :
    version.Normal := by
  obtain ⟨fits, same⟩ := firstVersion_eq_ok_iff.1 read
  cases found : firstNumber? fields names with
  | none =>
    rw [found] at same
    cases same
    exact ⟨rfl, by decide +kernel⟩
  | some number =>
    rw [found] at same
    cases same
    obtain ⟨name, _, held⟩ := List.exists_of_findSome?_eq_some found
    obtain ⟨value, _, finite⟩ := Option.bind_eq_some_iff.1 held
    exact Version.normal_of_finiteNumber? finite (fits _ found)

theorem normalizeTexts_of_normalizeValues {value : Datum} {types : List Text}
    (read : normalizeValues value = .ok types) : normalizeTexts types = types := by
  obtain ⟨_, same⟩ := normalizeValues_eq_ok_iff.1 read
  rw [← same, normalizeTexts_normalizeTexts]

/-- A checksum of its own also counts as one of the type, the last of all. -/
theorem firstPresent_checksum (absent : firstPresent fields checksumNames = none) :
    firstPresent fields ["checksum"] = none := by
  have parts : checksumNames = checksumNames.take 4 ++ [("checksum" : Text)] := rfl
  rw [parts, Datum.firstPresent, List.findSome?_append] at absent
  exact (Option.or_eq_none_iff.1 absent).2

theorem Reads.normal (reads : Reads fields catalog) : catalog.Normal where
  version := normal_firstVersion reads.graphTypeVersion
  checksum := by
    have checksum := reads.checksum
    have typeChecksum := reads.graphTypeChecksum
    constructor
    · intro blank
      rw [blank] at checksum
      exact (eq_fallback_of_firstText checksum).2
    · intro blank
      rw [blank] at checksum typeChecksum
      have absent := firstPresent_checksum (eq_fallback_of_firstText typeChecksum).1
      rw [firstText, absent] at checksum
      exact (Except.ok.inj checksum).symm
  schemaVersion := by
    intro blank
    have schemaVersion := reads.schemaVersion
    rw [blank] at schemaVersion
    exact absurd (eq_fallback_of_firstText schemaVersion).2 (by decide)
  nodeTypes := normalizeTexts_of_normalizeValues reads.nodeTypes
  linkTypes := normalizeTexts_of_normalizeValues reads.linkTypes
  iconSets := by
    obtain ⟨readable, same⟩ := firstIconSets_eq_ok_iff.1 reads.iconSets
    intro set member
    rw [← same] at member
    obtain ⟨item, inside, kept⟩ := List.mem_filterMap.1 member
    exact normal_of_keptIconSet? (readable item inside) kept
  profileId := reads.profileId
  profileVersion := reads.profileVersion
  profileChecksum := reads.profileChecksum

/-- Among texts the first that is not empty counts. -/
theorem firstText_of_texts {texts : List Text} (held : given fields names = texts.map .text)
    (fallback : Text) :
    firstText fields names fallback = .ok ((texts.find? fun t => !t.isEmpty).getD fallback) := by
  have same : (fun value => !value.isEmpty) ∘ Datum.text = fun t : Text => !t.isEmpty := rfl
  rw [firstText, Datum.firstPresent_eq_find?, held, List.find?_map, same]
  cases texts.find? fun t => !t.isEmpty with
  | none => rfl
  | some t => rfl

/-- The first of some texts counts if all are empty where it is. -/
theorem firstText_of_first {t : Text} {others : List Text}
    (held : given fields names = (t :: others).map .text)
    (blank : t = [] → ∀ other ∈ others, other = []) : firstText fields names = .ok t := by
  rw [firstText_of_texts held]
  cases t with
  | nil =>
    have absent : others.find? (fun t => !t.isEmpty) = none :=
      List.find?_eq_none.2 fun other member => by simp [blank rfl other member]
    simp [absent]
  | cons => rfl

theorem firstNumber?_eq_findSome? :
    firstNumber? fields names = (given fields names).findSome? Datum.finiteNumber? := by
  induction names with
  | nil => rfl
  | cons name names ih =>
    rw [firstNumber?, given] at ih
    rw [firstNumber?, List.findSome?_cons, given, List.filterMap_cons]
    cases lookup name fields with
    | none => exact ih
    | some value => rw [Option.bind_some, List.findSome?_cons, ih]

theorem firstVersion_of_given {version : Version} {others : List Datum} (normal : version.Normal)
    (held : given fields names = version.toDatum :: others) : firstVersion fields names = .ok version := by
  have found : firstNumber? fields names = some version := by
    rw [firstNumber?_eq_findSome?, held, List.findSome?_cons, normal.finite]
  rw [firstVersion_eq_ok_iff, found]
  refine ⟨?_, rfl⟩
  intro number same
  cases same
  exact normal.fits

theorem firstTypes_of_texts {types : List Text} (normal : normalizeTexts types = types)
    (held : given fields names = [textsDatum types]) : firstTypes fields names = .ok types := by
  rw [firstTypes, Datum.firstPresent_eq_find?, held]
  cases types with
  | nil => rfl
  | cons first others => exact (normalizeValues_textsDatum _).trans (congrArg _ normal)

theorem firstIconSets_of_iconSets {sets : List IconSet} (normal : ∀ set ∈ sets, NormalIconSet set)
    (casing : Casing) (held : given fields names = [.list (sets.map (iconDatum casing))]) :
    firstIconSets fields names = .ok sets := by
  have listed : ((firstPresent fields names).getD .null).items = sets.map (iconDatum casing) := by
    rw [Datum.firstPresent_eq_find?, held]
    cases sets <;> rfl
  rw [firstIconSets_eq_ok_iff, listed]
  constructor
  · intro item member
    obtain ⟨set, inside, rfl⟩ := List.mem_map.1 member
    exact readableEntry_iconDatum casing (normal set inside)
  · rw [List.filterMap_map]
    have kept : ∀ set ∈ sets, (keptIconSet? ∘ iconDatum casing) set = some set := fun set inside =>
      keptIconSet?_iconDatum casing (normal set inside)
    rw [List.filterMap_congr kept, List.filterMap_some]

/-- A catalog in normal form is read back from its fields. -/
theorem Normal.reads (normal : catalog.Normal) (outer inner : Casing) :
    Reads (catalog.toFields outer inner) catalog := by
  constructor
  -- The identity is found twice, under its own name and under that of its mirror.
  case graphTypeId =>
    have held : given (catalog.toFields outer inner) idNames =
        [catalog.graphTypeId, catalog.profileId].map .text := by cases outer <;> rfl
    exact firstText_of_first held (by simp [normal.profileId])
  case graphTypeVersion =>
    have held : given (catalog.toFields outer inner) versionNames =
        [catalog.graphTypeVersion.toDatum, catalog.profileVersion.toDatum] := by cases outer <;> rfl
    exact firstVersion_of_given normal.version held
  -- The checksum is the last name of the type checksum too, but is empty whenever it would count there.
  case graphTypeChecksum =>
    have held : given (catalog.toFields outer inner) checksumNames =
        [catalog.graphTypeChecksum, catalog.profileChecksum, catalog.checksum].map .text := by
      cases outer <;> rfl
    exact firstText_of_first held (by simp [normal.profileChecksum, normal.checksum])
  case checksum =>
    have held : given (catalog.toFields outer inner) ["checksum"] = [catalog.checksum].map .text := by
      cases outer <;> rfl
    rw [firstText_of_texts held]
    cases same : catalog.checksum with
    | nil => simp [normal.checksum.1 same]
    | cons => rfl
  case schemaVersion =>
    have held : given (catalog.toFields outer inner) schemaVersionNames =
        [catalog.schemaVersion].map .text := by cases outer <;> rfl
    rw [firstText_of_texts held]
    simp [normal.schemaVersion]
  case runtimeChecksum =>
    have held : given (catalog.toFields outer inner) runtimeChecksumNames =
        [catalog.runtimeChecksum].map .text := by cases outer <;> rfl
    exact firstText_of_first held (by simp)
  case iconSetResolutionChecksum =>
    have held : given (catalog.toFields outer inner) resolutionChecksumNames =
        [catalog.iconSetResolutionChecksum].map .text := by cases outer <;> rfl
    exact firstText_of_first held (by simp)
  case nodeTypes => exact firstTypes_of_texts normal.nodeTypes (by cases outer <;> rfl)
  case linkTypes => exact firstTypes_of_texts normal.linkTypes (by cases outer <;> rfl)
  case iconSets => exact firstIconSets_of_iconSets normal.iconSets inner (by cases outer <;> rfl)
  case profileId => exact normal.profileId
  case profileVersion => exact normal.profileVersion
  case profileChecksum => exact normal.profileChecksum

/-- A catalog that is read from anything is read again from the mapping of its fields, however their
names are spelled. The types that are read from anything are read again from their list; they are in
normal form and distinct. -/
theorem read_again :
    (∀ (raw : Datum) catalog, ofDatum raw = .ok catalog →
      ∀ outer inner, ofDatum (catalog.toDatum outer inner) = .ok catalog) ∧
    (∀ (value : Datum) types, normalizeValues value = .ok types →
      normalizeValues (textsDatum types) = .ok types ∧ (∀ t ∈ types, Text.Normal t) ∧ types.Nodup) := by
  constructor
  · intro raw catalog read outer inner
    rw [ofDatum_eq_ofFields, ofFields_eq_ok_iff] at read
    exact ofFields_eq_ok_iff.2 (read.normal.reads outer inner)
  · intro value types read
    obtain ⟨_, rfl⟩ := normalizeValues_eq_ok_iff.1 read
    refine ⟨?_, fun t => normal_of_mem_normalizeTexts, nodup_normalizeTexts _⟩
    rw [normalizeValues_textsDatum, normalizeTexts_normalizeTexts]

/-- The catalog of an old profile, which has its identity and its checksum under other names than it is
read back from, and a type in which a dotted capital stands. -/
theorem old_profile_read_again :
    let raw : Datum := .mapping [
      ("profile_id", .int 7), ("profileVersion", .float (.ofFields false 1023 0)), ("checksum", .text "c"),
      ("nodeTypes", .list [.text " İstanbul ", .null, .text "i̇stanbul"]),
      ("iconSetSources", .list [.mapping [("iconSetId", .text " ΑΣ "), ("iconSetVersion", .int 2)]])]
    let catalog : Catalog := {
      graphTypeId := "7", profileId := "7"
      graphTypeVersion := .float (.ofFields false 1023 0), profileVersion := .float (.ofFields false 1023 0)
      graphTypeChecksum := "c", profileChecksum := "c", checksum := "c"
      nodeTypes := ["i̇stanbul"], iconSets := [⟨"ας", .int 2⟩] }
    ofDatum raw = .ok catalog ∧ ofDatum (catalog.toDatum .camel .snake) = .ok catalog ∧
      ofDatum (catalog.toDatum .snake .camel) = .ok catalog ∧
      normalizeValues (textsDatum catalog.nodeTypes) = .ok catalog.nodeTypes := by
  intro raw catalog
  have read : ofDatum raw = .ok catalog := by decide +kernel
  have types : normalizeValues (.list [.text " İstanbul ", .null, .text "i̇stanbul"]) =
      .ok catalog.nodeTypes := by decide
  exact ⟨read, read_again.1 raw catalog read .camel .snake, read_again.1 raw catalog read .snake .camel,
    (read_again.2 _ _ types).1⟩

end Catalog
end GraphCompletion
