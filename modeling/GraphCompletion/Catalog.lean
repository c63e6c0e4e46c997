import GraphCompletion.Datum.Shown
import GraphCompletion.Text.Blank
import GraphCompletion.Text.Lower

/-!
# Profile catalogs

A catalog is the vocabulary of node and link types that a profile supplies, with the profile's
identity. It is read from an untyped mapping whose fields have two or more spellings; a field that
is missing or malformed leaves its default, and a malformed icon set is left out. Checksums are kept
as they are.
-/
namespace GraphCompletion

/-- A number as a catalog gives it. -/
inductive Version where
  | int (i : Int)
  | float (d : Double)
  deriving DecidableEq, Repr

/-- A version above zero. -/
def Version.isPositive : Version → Bool
  | .int i => 0 < i
  | .float d => d.isPositiveFinite

/-- An icon set with its version. -/
structure IconSet where
  id : Text
  version : Version
  deriving DecidableEq, Repr

/-- The vocabulary and identity of a profile. -/
structure Catalog where
  schemaVersion : Text := "v1"
  graphTypeId : Text := []
  graphTypeVersion : Version := .int 0
  graphTypeChecksum : Text := []
  runtimeChecksum : Text := []
  profileId : Text := []
  profileVersion : Version := .int 0
  profileChecksum : Text := []
  iconSetResolutionChecksum : Text := []
  checksum : Text := []
  nodeTypes : List Text := []
  linkTypes : List Text := []
  iconSets : List IconSet := []
  deriving DecidableEq, Repr

namespace Catalog

/-! The accepted spellings of the fields, the first that counts first. -/

def idNames : List Text := ["graphTypeId", "graph_type_id", "profileId", "profile_id"]

def versionNames : List Text :=
  ["graphTypeVersion", "graph_type_version", "profileVersion", "profile_version"]

def checksumNames : List Text :=
  ["graphTypeChecksum", "graph_type_checksum", "profileChecksum", "profile_checksum", "checksum"]

def schemaVersionNames : List Text := ["schemaVersion", "schema_version"]

def runtimeChecksumNames : List Text := ["runtimeChecksum", "runtime_checksum"]

def resolutionChecksumNames : List Text :=
  ["iconSetResolutionChecksum", "icon_set_resolution_checksum"]

def nodeTypesNames : List Text := ["nodeTypes", "node_types"]

def linkTypesNames : List Text := ["linkTypes", "link_types"]

def iconSetsNames : List Text := ["iconSetSources", "icon_set_sources"]

def iconIdNames : List Text := ["iconSetId", "icon_set_id"]

def iconVersionNames : List Text := ["iconSetVersion", "icon_set_version"]

/-- Why a catalog cannot be read. -/
inductive Error where
  /-- A whole number beyond the doubles stands where a version is expected. -/
  | versionTooLarge
  /-- A value that has no text stands where a text is expected. -/
  | noText (fault : Datum.TextFault)
  deriving DecidableEq, Repr

/-- A value as text. -/
def textOf (value : Datum) : Except Error Text :=
  match value.textFault? with
  | some fault => .error (.noText fault)
  | none => .ok value.shown

/-- A value as text, nothing for one that stands for nothing. -/
def textOrBlank (value : Datum) : Except Error Text :=
  if value.isEmpty then .ok [] else textOf value

/-- The texts of a list of values, in order. -/
def readTexts : List Datum → Except Error (List Text)
  | [] => .ok []
  | value :: rest => do
    let first ← textOrBlank value
    let others ← readTexts rest
    pure (first :: others)

/-- Texts stripped and in lower case, blanks and repeats left out. -/
def normalizeTexts (texts : List Text) : List Text :=
  ((texts.map fun t => Text.lower (Text.strip t)).filter fun t => !t.isEmpty).eraseDups

/-- The normal form of a list of values or of a single text; any other value has none. -/
def normalizeValues : Datum → Except Error (List Text)
  | .text t => .ok (normalizeTexts [t])
  | .list items => (readTexts items).map normalizeTexts
  | _ => .ok []

/-- A finite number, or none. -/
def version? : Datum → Except Error (Option Version)
  | .int i => if (Double.ofInt? i).isSome then .ok (some (.int i)) else .error .versionTooLarge
  | .float d => .ok (if d.isFinite then some (.float d) else none)
  | _ => .ok none

/-- The version of the first field that holds a finite number, else zero. -/
def firstVersion (fields : List (Text × Datum)) : List Text → Except Error Version
  | [] => .ok (.int 0)
  | name :: names => do
    match ← version? ((Datum.lookup name fields).getD .null) with
    | some version => pure version
    | none => firstVersion fields names

/-- The text of the first field that stands for something, else the fallback. -/
def firstText (fields : List (Text × Datum)) (names : List Text) (fallback : Text := []) :
    Except Error Text :=
  match Datum.firstPresent fields names with
  | some value => textOf value
  | none => .ok fallback

/-- The types of the first field that stands for something. -/
def firstTypes (fields : List (Text × Datum)) (names : List Text) : Except Error (List Text) :=
  normalizeValues ((Datum.firstPresent fields names).getD .null)

/-- An icon set from an untyped value, if it has an id and a positive version. -/
def iconSet? : Datum → Except Error (Option IconSet)
  | .mapping fields => do
    let id := Text.lower (Text.strip (← firstText fields iconIdNames))
    let given := (Datum.firstGiven fields iconVersionNames).getD .null
    let version ← version? given
    pure <| match version with
      | some version => if !id.isEmpty && version.isPositive then some ⟨id, version⟩ else none
      | none => none
  | _ => .ok none

/-- The icon sets of a list of values, in order. -/
def readIconSets : List Datum → Except Error (List IconSet)
  | [] => .ok []
  | value :: rest => do
    let first ← iconSet? value
    let others ← readIconSets rest
    pure (first.toList ++ others)

/-- The icon sets of the first field that stands for something, none if that is no list. -/
def firstIconSets (fields : List (Text × Datum)) (names : List Text) : Except Error (List IconSet) :=
  match Datum.firstPresent fields names with
  | some (.list items) => readIconSets items
  | _ => .ok []

/-- A catalog from the fields of a mapping. -/
def ofFields (fields : List (Text × Datum)) : Except Error Catalog := do
  let id ← firstText fields idNames
  let version ← firstVersion fields versionNames
  let typeChecksum ← firstText fields checksumNames
  let checksum ← firstText fields ["checksum"] typeChecksum
  let schemaVersion ← firstText fields schemaVersionNames "v1"
  let runtimeChecksum ← firstText fields runtimeChecksumNames
  let iconSetResolutionChecksum ← firstText fields resolutionChecksumNames
  let nodeTypes ← firstTypes fields nodeTypesNames
  let linkTypes ← firstTypes fields linkTypesNames
  let iconSets ← firstIconSets fields iconSetsNames
  pure {
    schemaVersion
    graphTypeId := id
    graphTypeVersion := version
    graphTypeChecksum := typeChecksum
    runtimeChecksum
    profileId := id
    profileVersion := version
    profileChecksum := typeChecksum
    iconSetResolutionChecksum
    checksum
    nodeTypes
    linkTypes
    iconSets }

/-- A catalog from an untyped value; one that is no mapping gives the empty catalog. -/
def ofDatum : Datum → Except Error Catalog
  | .mapping fields => ofFields fields
  | _ => ofFields []

end Catalog
end GraphCompletion
