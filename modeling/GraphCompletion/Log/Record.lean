import GraphCompletion.Number.Whole
import GraphCompletion.Text.Quoted

/-!
# Log records

A record is a message of a logger at a level. Levels are whole numbers, some of which have names;
zero stands for no level at all.
-/
namespace GraphCompletion.Log

/-- How important a record is. -/
structure Level where
  rank : Int
  deriving DecidableEq, Repr

namespace Level

def unset : Level := ⟨0⟩
def debug : Level := ⟨10⟩
def info : Level := ⟨20⟩
def warning : Level := ⟨30⟩
def error : Level := ⟨40⟩
def critical : Level := ⟨50⟩

/-- The levels by their names. The first name of a level is the one that is shown. -/
def names : List (Text × Level) := [
  ("CRITICAL", critical), ("FATAL", critical), ("ERROR", error), ("WARNING", warning),
  ("WARN", warning), ("INFO", info), ("DEBUG", debug), ("NOTSET", unset)]

/-- The level of a name. -/
def ofName? (name : Text) : Option Level := names.lookup name

/-- The name of a level; one without a name is named by its rank. -/
def name (level : Level) : Text :=
  match names.find? fun entry => entry.2 = level with
  | some entry => entry.1
  | none => "Level " ++ Number.intText level.rank

/-- A letter as a capital. Two letters outside ASCII have capitals in it. -/
def capital (c : Char) : Char :=
  if c = 'ı' then 'I' else if c = 'ſ' then 'S' else c.toUpper

end Level

/-- A message of a logger. -/
structure Record where
  logger : Text
  level : Level
  message : Text
  deriving DecidableEq, Repr

end GraphCompletion.Log
