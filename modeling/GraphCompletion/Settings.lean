import GraphCompletion.Marker
import GraphCompletion.Message.Reading
import GraphCompletion.Settings.EnvFile

/-!
# Settings

The settings come from the environment, in development also from a file of variables, over which the
environment wins; names count in any case. Afterwards the variables of that file are set in the
environment, where now the file wins.
-/
namespace GraphCompletion

/-- How completion is set up. The type lists are texts with commas between the types. -/
structure Settings where
  indentSize : Int := 2
  diagnosticSource : Text := Marker.defaultSource
  nodeTypeList : Text := []
  linkTypeList : Text := []
  loggingConfigPath : Text := "logging-config.yaml"
  deriving DecidableEq, Repr

/-- The deployments that have settings. -/
inductive Deployment where
  | development
  | production
  | test
  deriving DecidableEq, Repr

namespace Deployment

/-- The variable that names the deployment. -/
def variableName : Text := "APP_ENV"

/-- The deployment of a name. -/
def ofName? (name : Text) : Option Deployment :=
  if name = "dev".toList then some development
  else if name = "prod".toList then some production
  else if name = "test".toList then some test
  else none

end Deployment

namespace Settings

/-- The pieces between commas without white space around them, empty ones left out. -/
def splitCommas (t : Text) : List Text :=
  ((Text.splitOn ',' t).map Text.strip).filter fun piece => !piece.isEmpty

/-- The node types used when neither the request nor the catalog has any. -/
def nodeTypes (settings : Settings) : List Text := splitCommas settings.nodeTypeList

/-- The link types used when neither the request nor the catalog has any. -/
def linkTypes (settings : Settings) : List Text := splitCommas settings.linkTypeList

/-- The names of the settings. -/
def names : List Text :=
  ["AUTOCOMPLETE_INDENT_SIZE", "AUTOCOMPLETE_DIAGNOSTIC_SOURCE", "AUTOCOMPLETE_DEFAULT_NODE_TYPES",
    "AUTOCOMPLETE_DEFAULT_LINK_TYPES", "LOGGING_CONFIG_PATH"]

open Message in
/-- The settings as they are given, whatever the indentation. -/
def ofFieldsUnchecked (fields : Fields) (d : Settings) : Checked Settings :=
  Settings.mk <$> defaulted fields "AUTOCOMPLETE_INDENT_SIZE" readWhole d.indentSize
    <*> defaulted fields "AUTOCOMPLETE_DIAGNOSTIC_SOURCE" readText d.diagnosticSource
    <*> defaulted fields "AUTOCOMPLETE_DEFAULT_NODE_TYPES" readText d.nodeTypeList
    <*> defaulted fields "AUTOCOMPLETE_DEFAULT_LINK_TYPES" readText d.linkTypeList
    <*> defaulted fields "LOGGING_CONFIG_PATH" readText d.loggingConfigPath

/-- The settings of fields. Indentation must be by one space at least. -/
def ofFields (fields : Message.Fields) : Checked Settings :=
  (ofFieldsUnchecked fields {}).andThen fun settings =>
    if 0 < settings.indentSize then .value settings else .fail .rejected

/-- The value of a setting among variables; of several spellings of its name the last one counts. -/
def given? {α : Type} (name : Text) (bindings : List (Text × α)) : Option α :=
  Environment.get? (Text.lower name) (bindings.reverse.map fun entry => (Text.lower entry.1, entry.2))

/-- The settings that the environment gives, and those that only the file gives. -/
def fieldsOf (environment : Environment) (file : List (Text × Option Text)) : Message.Fields :=
  names.filterMap fun name =>
    ((given? name environment).or (given? name file).join).map fun value => (name, .text value)

end Settings

/-- Why there are no settings. -/
inductive SettingsError where
  | unknownDeployment
  | invalid (issues : List Issue)
  /-- A variable of the file cannot be set. -/
  | unsettable
  deriving DecidableEq, Repr

namespace SettingsError

/-- What is said of an unknown deployment. -/
def unknownDeploymentMessage : Text := "Invalid environment name"

end SettingsError

/-- A deployment with its settings and the environment that it leaves behind. -/
structure Configured where
  deployment : Deployment
  settings : Settings
  environment : Environment
  deriving DecidableEq, Repr

namespace Configured

/-- A variable that an environment can hold. -/
def isSettable (entry : Text × Text) : Bool :=
  !entry.1.contains '=' && !entry.1.contains '\x00' && !entry.2.contains '\x00'

/-- The environment with variables set in it. -/
def setAll (environment : Environment) (bindings : List (Text × Text)) : Environment :=
  bindings.foldl (fun all entry => Environment.put entry.1 entry.2 all) environment

/-- The deployment that an environment names, development if it names none. -/
def deployment? (environment : Environment) : Option Deployment :=
  match Environment.get? Deployment.variableName environment with
  | some name => Deployment.ofName? name
  | none => some .development

/-- Reads the settings from an environment and, in development, the text of the file if there is
one. -/
def read (environment : Environment) (file : Option Text) : Except SettingsError Configured := do
  match deployment? environment with
  | none => throw .unknownDeployment
  | some deployment =>
    let bindings :=
      match deployment, file with
      | .development, some text => EnvFile.bindings environment text
      | _, _ => []
    let settings ← (Settings.ofFields (Settings.fieldsOf environment bindings)).toExcept.mapError
      SettingsError.invalid
    let added := bindings.filterMap fun entry => entry.2.map fun value => (entry.1, value)
    if added.all isSettable then pure ⟨deployment, settings, setAll environment added⟩
    else throw .unsettable

end Configured
end GraphCompletion
