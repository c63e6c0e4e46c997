import GraphCompletion.Log.Layout
import GraphCompletion.Yaml.Document

/-!
# Logging configurations

A configuration names layouts, filters and handlers and says which handlers, level and filters the
loggers have. It is read from a document, part by part; the first part that is wrong decides the
error. A logger may only use handlers and filters that the configuration has.
-/
namespace GraphCompletion.Log

open Yaml

/-- Where a handler writes. -/
inductive Destination where
  | console
  | file
  /-- Out of sight. -/
  | elsewhere
  | nowhere
  deriving DecidableEq, Repr

/-- A writer of records from a level on, restricted to the loggers under one of the names in each
filter. A delayed one opens its file only for the first record. -/
structure Handler where
  name : Scalar
  destination : Destination
  level : Level
  layout : Layout
  filters : List Text := []
  isDelayed : Bool := false
  deriving DecidableEq, Repr

/-- What a configuration says of a logger. -/
structure LoggerSetup where
  level : Option Level := none
  handlers : List Handler := []
  filters : List Text := []
  propagates : Option Bool := none
  deriving DecidableEq, Repr

/-- A configuration. An incremental one changes levels only. -/
structure Configuration where
  isIncremental : Bool
  disablesOthers : Bool
  handlers : List Handler
  loggers : List (Text × LoggerSetup)
  root : Option LoggerSetup
  deriving DecidableEq, Repr

/-- What is wrong with a configuration. -/
inductive ConfigurationError where
  /-- Something else stands where a mapping is expected. -/
  | notMapping
  /-- Something else stands where a collection is expected. -/
  | notCollection
  /-- A part that has no meaning. -/
  | refused
  deriving DecidableEq, Repr

namespace Configuration

/-- A scalar that stands for nothing. -/
def isEmptyScalar : Scalar → Bool
  | .null => true
  | .bool b => !b
  | .int i => i == 0
  | .float d => d.isZero
  | .text t => t.isEmpty
  | .bytes data => data.isEmpty
  | .date _ | .dateTime _ => false

/-- A part that stands for nothing. -/
def isEmpty (d : Document) (id : Nat) : Bool :=
  match d.cell id with
  | .scalar value => isEmptyScalar value
  | .sequence items => items.isEmpty
  | .mapping entries => entries.isEmpty
  | .members keys => keys.isEmpty
  | .pairs entries => entries.isEmpty

/-- The scalar in a cell. -/
def scalar? (d : Document) (id : Nat) : Option Scalar :=
  match d.cell id with
  | .scalar value => some value
  | _ => none

/-- The value of a field unless it is null. -/
def given? (d : Document) (id : Nat) (name : Text) : Option Nat :=
  (d.field? id name).filter fun value => d.cell value != .scalar .null

/-- The value of a field unless it stands for nothing. -/
def present? (d : Document) (id : Nat) (name : Text) : Option Nat :=
  (d.field? id name).filter fun value => !isEmpty d value

/-- Whether a field is there and stands for something, or the default without it. -/
def flag (d : Document) (id : Nat) (name : Text) (default : Bool) : Bool :=
  match d.field? id name with
  | some value => !isEmpty d value
  | none => default

/-- The entries of a part that is a mapping. -/
def entries? (d : Document) (id : Nat) : Option (List (Nat × Nat)) :=
  match d.cell id with
  | .mapping entries => some entries
  | _ => none

/-- The names in a part: those of a list, the keys of a mapping, or the characters of a text. -/
def names? (d : Document) (id : Nat) : Option (List Scalar) :=
  match d.cell id with
  | .sequence items => items.mapM (scalar? d)
  | .mapping entries => entries.mapM fun entry => scalar? d entry.1
  | .members keys => keys.mapM (scalar? d)
  | .scalar (.text t) => some (t.map fun c => .text [c])
  | _ => none

/-- The entry of a name. -/
def find? {α : Type} (entries : List (Scalar × α)) (name : Scalar) : Option α :=
  (entries.find? fun entry => entry.1.sameKey name).map (·.2)

/-- The level that a cell gives: a number or a name. -/
def level? (d : Document) (id : Nat) : Option Level :=
  match d.cell id with
  | .scalar (.int i) => some ⟨i⟩
  | .scalar (.bool b) => some ⟨if b then 1 else 0⟩
  | .scalar (.text t) => Level.ofName? t
  | _ => none

/-- The level that a part asks for, if it asks for any; none when there is no such level. -/
def levelOf? (d : Document) (id : Nat) : Option (Option Level) :=
  match given? d id "level" with
  | some value => (level? d value).map some
  | none => some none

/-- The entries that a part refers to by name. -/
def references? {α : Type} (d : Document) (id : Nat) (field : Text) (known : List (Scalar × α)) :
    Option (List α) :=
  match present? d id field with
  | some value => do (← names? d value).mapM (find? known)
  | none => some []

/-- The field that names a factory of the host's own, which has no meaning here. -/
def factoryField : Text := "()"

/-- A part that is a mapping without a factory. -/
def isPlain (d : Document) (id : Nat) : Bool :=
  (entries? d id).isSome && (d.field? id factoryField).isNone

/-- The class that is named, if any is. -/
def isOfClass (d : Document) (id : Nat) (name : Text) : Bool :=
  match present? d id "class" with
  | some value => d.text? value = some name
  | none => true

/-- A layout. Unless that is waived, it has a directive at least. -/
def layout? (d : Document) (id : Nat) : Option Layout :=
  let hasStyle : Bool := match d.field? id "style" with
    | some value => d.text? value = some ['%']
    | none => true
  if isPlain d id && hasStyle && isOfClass d id "logging.Formatter" then
    match present? d id "format" with
    | none => some {}
    | some value => do
      let template ← d.text? value
      if !flag d id "validate" true || Layout.hasDirective template then some ⟨template⟩ else none
  else none

/-- A filter: the name under which loggers are let through. -/
def filter? (d : Document) (id : Nat) : Option Text :=
  if isPlain d id then
    match d.field? id "name" with
    | some value => d.text? value
    | none => some []
  else none

/-- The fields that every handler may have. -/
def handlerFields : List Text := ["class", "level", "formatter", "filters", "."]

/-- All fields of a handler are among these or those of every handler. -/
def hasOnly (d : Document) (id : Nat) (fields : List Text) : Bool :=
  ((entries? d id).getD []).all fun entry =>
    match d.text? entry.1 with
    | some name => (handlerFields ++ fields).contains name
    | none => false

/-- The signs of the console. -/
def consoleSign : Text := "ext://sys.stdout"
def errorConsoleSign : Text := "ext://sys.stderr"

/-- Where a handler of a stream writes. -/
def streamDestination? (d : Document) (id : Nat) : Option Destination :=
  if !hasOnly d id ["stream"] then none
  else
    match (d.field? id "stream").bind d.text? with
    | some t =>
      if t = consoleSign then some .console
      else if t = errorConsoleSign then some .elsewhere
      else if "ext://".toList.isPrefixOf t || "cfg://".toList.isPrefixOf t then none
      else some .elsewhere
    | none => some .elsewhere

/-- The ways of opening a file to write. -/
def writeModes : List Text := ["a", "w", "a+", "w+", "at", "wt"]

/-- Whether a handler of a file can be had. -/
def isFileHandler (d : Document) (id : Nat) : Bool :=
  let textOrNull (name : Text) : Bool :=
    match given? d id name with
    | some value => (d.text? value).isSome
    | none => true
  let isWritten : Bool := match d.field? id "mode" with
    | some value => ((d.text? value).map writeModes.contains).getD false
    | none => true
  hasOnly d id ["filename", "mode", "encoding", "delay", "errors"] &&
    (d.field? id "filename").isSome && isWritten && textOrNull "encoding" && textOrNull "errors"

/-- Where a handler writes, if its class is known and its fields suit the class. -/
def destination? (d : Document) (id : Nat) : Option Destination :=
  match ((d.field? id "class").bind d.text?).map String.ofList with
  | some "logging.StreamHandler" => streamDestination? d id
  | some "logging.FileHandler" => if isFileHandler d id then some .file else none
  | some "logging.NullHandler" => if hasOnly d id [] then some .nowhere else none
  | _ => none

/-- A handler under a name. -/
def handler? (d : Document) (layouts : List (Scalar × Layout)) (filters : List (Scalar × Text))
    (name : Scalar) (id : Nat) : Option Handler := do
  if !isPlain d id then none
  else
    let layout ← match present? d id "formatter" with
      | some value => do find? layouts (← scalar? d value)
      | none => some {}
    let level ← levelOf? d id
    let destination ← destination? d id
    let filters ← references? d id "filters" filters
    pure {
      name, layout, filters, destination
      level := level.getD .unset
      isDelayed := flag d id "delay" false }

/-- What loggers may refer to by name. -/
structure Known where
  handlers : List (Scalar × Handler) := []
  filters : List (Scalar × Text) := []

/-- What is said of a logger under a level that overrides its own. Each handler counts once. Where
nothing is known, as in an incremental configuration, handlers and filters are not asked for. -/
def logger? (d : Document) (known : Option Known) (id : Option Nat) (override : Option Text) :
    Option LoggerSetup := do
  let level ← match override, id with
    | some name, _ => (Level.ofName? name).map some
    | none, some id => levelOf? d id
    | none, none => some none
  match id with
  | none => pure { level }
  | some id =>
    if (entries? d id).isNone then none
    else
      let propagates := (given? d id "propagate").map fun value => !isEmpty d value
      match known with
      | none => pure { level, propagates }
      | some known =>
        let handlers ← references? d id "handlers" known.handlers
        let filters ← references? d id "filters" known.filters
        pure { level, filters, propagates, handlers := handlers.eraseDups }

/-- A part, or the refusal of it. -/
def orRefused {α : Type} : Option α → Except ConfigurationError α
  | some a => .ok a
  | none => .error .refused

/-- The entries of a part that is gone through by its names. -/
def entriesOf (d : Document) (id : Nat) (name : Text) :
    Except ConfigurationError (List (Nat × Nat)) :=
  match d.field? id name with
  | none => .ok []
  | some value =>
    match d.cell value with
    | .mapping entries => .ok entries
    | .sequence _ | .members _ | .pairs _ | .scalar (.text _) | .scalar (.bytes _) =>
      if isEmpty d value then .ok [] else .error .refused
    | _ => .error .notCollection

/-- The parts of a collection read one after the other, with their names. -/
def readAll {α : Type} (d : Document) (read : Scalar → Nat → Option α) :
    List (Nat × Nat) → Except ConfigurationError (List (Scalar × α))
  | [] => .ok []
  | (key, value) :: rest => do
    let name ← orRefused (scalar? d key)
    let part ← orRefused (read name value)
    let others ← readAll d read rest
    pure ((name, part) :: others)

/-- The loggers whose level can be overridden. -/
def packageLoggers : List Text := ["authoring_engine", "authoring_backend"]

/-- A logger that is spoken of: its name, what is said, and a level that overrides its own. -/
abbrev LoggerEntry := Scalar × Option Nat × Option Text

/-- The entries with an overriding level for a logger. -/
def overrideLevel (d : Document) (level name : Text) (entries : List LoggerEntry) :
    Except ConfigurationError (List LoggerEntry) :=
  match find? entries (.text name) with
  | none => .ok (entries ++ [(.text name, none, some level)])
  | some (said, _) =>
    if (said.bind (entries? d)).isSome || said.isNone then
      .ok (entries.map fun entry =>
        if entry.1.sameKey (.text name) then (entry.1, said, some level) else entry)
    else .error .notCollection

/-- Entries without an overriding level. -/
def plainEntries (d : Document) (entries : List (Nat × Nat)) : List LoggerEntry :=
  entries.filterMap fun entry => (scalar? d entry.1).map fun name => (name, some entry.2, none)

/-- The loggers that are spoken of under an overriding level. -/
def overriddenEntries (d : Document) (level : Text) :
    Except ConfigurationError (List LoggerEntry) := do
  let entries ← match d.field? d.root "loggers" with
    | none => pure []
    | some value =>
      match entries? d value with
      | some entries => pure entries
      | none => throw .notMapping
  packageLoggers.foldlM (fun entries name => overrideLevel d level name entries)
    (plainEntries d entries)

/-- The name of the logger above all others, and the other name that it has. -/
def rootName : Text := []
def rootWord : Text := "root"

def canonicalName (name : Text) : Text := if name = rootWord then rootName else name

/-- The loggers of a configuration. -/
def loggersOf (d : Document) (known : Option Known) :
    List LoggerEntry → Except ConfigurationError (List (Text × LoggerSetup))
  | [] => .ok []
  | (.text name, said, level) :: rest => do
    let setup ← orRefused (logger? d known said level)
    let others ← loggersOf d known rest
    pure ((canonicalName name, setup) :: others)
  | _ => .error .refused

/-- The only version of configurations that there is. -/
def version : Int := 1

/-- The text that a handler of a file has among its fields. -/
def fileField : Text := "filename"

/-- Whether a handler is said to have a file. Only collections and texts can be asked. -/
def namesFile (d : Document) (id : Nat) : Except ConfigurationError Bool :=
  match d.cell id with
  | .scalar (.text _) => .ok false
  | .scalar _ => .error .notCollection
  | _ => .ok (d.field? id fileField).isSome

/-- Whether any handler is said to have a file. -/
def usesFiles (d : Document) : Except ConfigurationError Bool :=
  match entries? d d.root, d.field? d.root "handlers" with
  | none, _ => .error .notMapping
  | some _, none => .ok false
  | some _, some handlers =>
    match entries? d handlers with
    | none => .error .notMapping
    | some entries => entries.foldlM (fun found entry => do pure (found || (← namesFile d entry.2))) false

/-- The handlers and filters of a configuration. -/
def known (d : Document) : Except ConfigurationError Known := do
  let layouts ← readAll d (fun _ => layout? d) (← entriesOf d d.root "formatters")
  let filters ← readAll d (fun _ => filter? d) (← entriesOf d d.root "filters")
  let handlers ← readAll d (handler? d layouts filters) (← entriesOf d d.root "handlers")
  pure ⟨handlers, filters⟩

/-- An incremental configuration cannot bring handlers with it. -/
def noneKnown (d : Document) : Except ConfigurationError (Option Known) := do
  if (← entriesOf d d.root "handlers").isEmpty then pure none else throw .refused

/-- The configuration that a document holds, under a level that overrides those of the packages. -/
def ofDocument (d : Document) (level : Option Text) : Except ConfigurationError Configuration := do
  let overridden ← level.mapM (overriddenEntries d)
  if ((d.field? d.root "version").bind (scalar? d)).bind Scalar.whole? != some version then
    throw .refused
  let isIncremental := flag d d.root "incremental" false
  let known ← if isIncremental then noneKnown d else (known d).map some
  let entries ← match overridden with
    | some entries => pure entries
    | none => (entriesOf d d.root "loggers").map (plainEntries d)
  let loggers ← loggersOf d known entries
  let root ← match present? d d.root "root" with
    | none => pure none
    | some id => (orRefused (logger? d known (some id) none)).map some
  pure {
    isIncremental, loggers, root
    disablesOthers := flag d d.root "disable_existing_loggers" true
    handlers := ((known.map (·.handlers)).getD []).map (·.2) }

end Configuration
end GraphCompletion.Log
