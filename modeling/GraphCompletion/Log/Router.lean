import GraphCompletion.Log.Configuration
import GraphCompletion.Settings.Environment

/-!
# Routing of log records

Loggers form a tree by the dots in their names, under the root logger. A record is let through by the
first level set on the way up from its logger, and then handled by the handlers on that way, up to
the first logger that does not propagate.
-/
namespace GraphCompletion.Log

/-- What a logger does with records. -/
structure LoggerState where
  level : Level := .unset
  handlers : List Handler := []
  filters : List Text := []
  propagates : Bool := true
  isDisabled : Bool := false
  deriving DecidableEq, Repr

/-- The loggers that were set up or used, by their names. -/
structure Router where
  loggers : List (Text × LoggerState)
  deriving DecidableEq, Repr

namespace Router

/-- The loggers there are before any configuration. -/
def initial : Router :=
  ⟨[(Configuration.rootName, { level := .warning }),
    ("authoring_engine.graph_yaml.entities", {}),
    ("authoring_engine.graph_yaml.metadata", {}),
    ("authoring_backend.services.diagnostic_marker_service", {}),
    ("authoring_backend.services.graph_autocomplete_service", {})]⟩

/-- The state of a logger. -/
def state (router : Router) (name : Text) : LoggerState :=
  (Environment.get? (Configuration.canonicalName name) router.loggers).getD {}

/-- A dotted name or a name above it. -/
def isUnder (name above : Text) : Bool :=
  above.isEmpty || name = above || (above ++ ['.']).isPrefixOf name

/-- The names from a logger up to the root. -/
def lineage (name : Text) : List Text :=
  let name := Configuration.canonicalName name
  let dots := (List.range name.length).filter fun i => name[i]? = some '.' && 0 < i
  let own := if name.isEmpty then [] else [name]
  own ++ (dots.reverse.map fun i => name.take i) ++ [Configuration.rootName]

/-- The level that counts for a logger. -/
def effectiveLevel (router : Router) (name : Text) : Level :=
  ((lineage name).map fun above => (router.state above).level).find? (· != .unset) |>.getD .unset

/-- The handlers on the way up through some loggers. -/
def handlersAlong (router : Router) : List Text → List Handler
  | [] => []
  | name :: above =>
    let state := router.state name
    state.handlers ++ if state.propagates then handlersAlong router above else []

/-- The logger takes records of a level. -/
def isEnabled (router : Router) (name : Text) (level : Level) : Bool :=
  !(router.state name).isDisabled && (router.effectiveLevel name).rank ≤ level.rank

/-- Where a record goes, with the line that it becomes there if it suits the layout. -/
def route (router : Router) (record : Record) : List (Destination × Option Text) :=
  let passes (filters : List Text) : Bool := filters.all (isUnder record.logger)
  if router.isEnabled record.logger record.level && passes (router.state record.logger).filters then
    (router.handlersAlong (lineage record.logger)).filterMap fun handler =>
      if handler.level.rank ≤ record.level.rank && passes handler.filters then
        some (handler.destination, handler.layout.render? record)
      else none
  else []

/-- A logger after what a configuration says of it. -/
def setUp (isIncremental : Bool) (setup : LoggerSetup) (state : LoggerState) : LoggerState :=
  let levelled := { state with
    level := setup.level.getD state.level
    propagates := setup.propagates.getD state.propagates
    isDisabled := false }
  if isIncremental then levelled
  else { levelled with handlers := setup.handlers, filters := state.filters ++ setup.filters }

/-- A logger that a configuration does not speak of: below one that it speaks of it is reset, else it
is disabled or enabled. -/
def leftOver (configuration : Configuration) (name : Text) (state : LoggerState) : LoggerState :=
  let isBelow : Bool := configuration.loggers.any fun entry =>
    !entry.1.isEmpty && entry.1 != name && isUnder name entry.1
  if isBelow then { state with level := .unset, handlers := [], propagates := true }
  else { state with isDisabled := configuration.disablesOthers }

/-- The router after a configuration. -/
def configure (router : Router) (configuration : Configuration) : Router :=
  let isSpokenOf (name : Text) : Bool := configuration.loggers.any fun entry => entry.1 = name
  let kept :=
    if configuration.isIncremental then router.loggers
    else router.loggers.map fun (name, state) =>
      if name.isEmpty || isSpokenOf name then (name, state)
      else (name, leftOver configuration name state)
  let roots := configuration.root.toList.map fun setup =>
    (Configuration.rootName, { setup with propagates := none })
  ⟨(configuration.loggers ++ roots).foldl (fun loggers (name, setup) =>
    let state := (Environment.get? name loggers).getD {}
    Environment.put name (setUp configuration.isIncremental setup state) loggers) kept⟩

end Router
end GraphCompletion.Log
