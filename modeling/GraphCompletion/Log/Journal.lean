import GraphCompletion.Log.Router

/-!
# Journals

A journal holds what was logged on the console and in the file of the process. It is set up from the
text of a configuration, whose handlers of files all write to the one file of the process.
-/
namespace GraphCompletion.Log

/-- What was logged, and the loggers. -/
structure Journal where
  router : Router := .initial
  /-- There is a directory for files. -/
  hasDirectory : Bool := false
  console : List Text := []
  /-- The lines of the file, if it is open. -/
  file : Option (List Text) := none
  deriving DecidableEq, Repr

/-- How logging is set up. -/
structure SetupOptions where
  process : Option Text := none
  /-- The file of an earlier run is continued. -/
  appends : Bool := false
  level : Option Text := none
  deriving DecidableEq, Repr

/-- Why logging cannot be set up. -/
inductive SetupError where
  | missingFile
  | notFile
  | document (fault : Yaml.Fault)
  | configuration (error : ConfigurationError)
  deriving DecidableEq, Repr

/-- The layouts and handlers of the configuration that comes with the program. -/
def defaultHandlers : List Text := [
  "version: 1",
  "disable_existing_loggers: false",
  "formatters:",
  "  standard:",
  "    format: \"%(asctime)s - %(name)s - %(levelname)s - %(message)s\"",
  "handlers:",
  "  console:",
  "    class: logging.StreamHandler",
  "    level: INFO",
  "    formatter: standard",
  "    stream: ext://sys.stdout",
  "  file:",
  "    class: logging.FileHandler",
  "    level: DEBUG",
  "    formatter: standard",
  "    filename: logs/graph_autocomplete.log",
  "    encoding: utf-8"]

/-- The loggers of that configuration. -/
def defaultLoggers : List Text := [
  "loggers:",
  "  authoring_engine:",
  "    level: DEBUG",
  "    handlers: [console, file]",
  "    propagate: false",
  "  authoring_backend:",
  "    level: DEBUG",
  "    handlers: [console, file]",
  "    propagate: false",
  "root:",
  "  level: INFO",
  "  handlers: [console]"]

/-- The configuration that comes with the program. -/
def defaultConfiguration : Text := Text.join ['\n'] (defaultHandlers ++ defaultLoggers)

/-- The name of the file with that configuration. -/
def defaultPath : Text := "logging-config.yaml"

/-- The configuration in the file that a path leads to. -/
def configurationAt (path : Text) : Except SetupError Text :=
  if path.head? = some '/' then .error .missingFile
  else
    match (Text.splitOn '/' path).filter fun part => !part.isEmpty && part != ['.'] with
    | [] => .error .notFile
    | parts => if parts = [defaultPath] then .ok defaultConfiguration else .error .missingFile

namespace SetupOptions

/-- The process that a journal is of when none is named. -/
def defaultProcess : Text := "driver"

/-- The name of the process. -/
def processName (options : SetupOptions) : Text :=
  (options.process.filter fun name => !name.isEmpty).getD defaultProcess

/-- The name of the file of the process. -/
def fileName (options : SetupOptions) : Text :=
  options.processName ++ (if options.appends then [] else '_' :: timeSign) ++ ".log"

/-- The level that overrides those of the packages, in capitals. -/
def overridingLevel (options : SetupOptions) : Option Text :=
  (options.level.filter fun level => !level.isEmpty).map fun level => level.map Level.capital

end SetupOptions

namespace Journal

/-- A file of that name can be opened. -/
def canOpen (name : Text) : Bool := !name.contains '/' && !name.contains '\x00'

/-- The file is open if a handler opens it at once. -/
def openFile (journal : Journal) (handlers : List Handler) : Journal :=
  if handlers.any fun handler => handler.destination = .file && !handler.isDelayed then
    { journal with file := some (journal.file.getD []) }
  else journal

/-- The journal set up from the text of a configuration. -/
def setUp (journal : Journal) (text : Text) (options : SetupOptions) : Except SetupError Journal := do
  let document ← (Yaml.Document.load text).mapError .document
  let usesFiles ← (Configuration.usesFiles document).mapError .configuration
  let configuration ←
    (Configuration.ofDocument document options.overridingLevel).mapError .configuration
  let writesFile := configuration.handlers.any fun handler => handler.destination = .file
  if writesFile && !canOpen options.fileName then throw (.configuration .refused)
  else
    let opened := journal.openFile configuration.handlers
    pure { opened with
      router := journal.router.configure configuration
      hasDirectory := journal.hasDirectory || usesFiles }

/-- The journal set up again and again. -/
def setUpTimes (text : Text) (options : SetupOptions) : Nat → Journal → Except SetupError Journal
  | 0, journal => .ok journal
  | times + 1, journal => do setUpTimes text options times (← journal.setUp text options)

/-- The journal with a line written, if there is one. The file is opened in any case. -/
def writeLine (journal : Journal) : Destination × Option Text → Journal
  | (.console, line) => { journal with console := journal.console ++ line.toList }
  | (.file, line) => { journal with file := some (journal.file.getD [] ++ line.toList) }
  | (.elsewhere, _) | (.nowhere, _) => journal

/-- The journal with a record routed. -/
def write (journal : Journal) (record : Record) : Journal :=
  (journal.router.route record).foldl writeLine journal

/-- The levels at which a logger is tried. -/
def trialLevels : List Level := [.debug, .info, .warning, .error]

/-- A record at each trial level, in which a logger says its name. -/
def trial (logger : Text) : List Record :=
  let name := if logger.isEmpty then Configuration.rootWord else logger
  trialLevels.map fun level => ⟨name, level, logger ++ " says " ++ level.name⟩

end Journal
end GraphCompletion.Log
