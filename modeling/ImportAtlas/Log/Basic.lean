import ImportAtlas.Text.Numeral

/-!
# Log records

What happens along the way is reported in records with a level, the part of the program that speaks
and a message.  Functions that report return their records in order; which of them are shown is
decided where they are printed.
-/

namespace ImportAtlas

inductive LogLevel where
  | debug
  | info
  | warning
  | error
  | critical
deriving DecidableEq

namespace LogLevel

def rank : LogLevel → Int
  | .debug => 10
  | .info => 20
  | .warning => 30
  | .error => 40
  | .critical => 50

/-- The name of the level with a rank, which for most ranks has none of its own. -/
def nameOfRank (rank : Int) : Text :=
  match rank with
  | 0 => "NOTSET"
  | 10 => "DEBUG"
  | 20 => "INFO"
  | 30 => "WARNING"
  | 40 => "ERROR"
  | 50 => "CRITICAL"
  | _ => "Level " ++ Text.integer rank

def name (level : LogLevel) : Text := nameOfRank level.rank

/-- The rank from which on records are shown: informative ones, and ten less or more for each time
the user asks for more or less. -/
def threshold (verbose quiet : Int) : Int :=
  max debug.rank (min critical.rank (info.rank - verbose * 10 + quiet * 10))

theorem threshold_bounds (verbose quiet : Int) :
    debug.rank ≤ threshold verbose quiet ∧ threshold verbose quiet ≤ critical.rank := by
  simp only [threshold, rank]
  omega

end LogLevel

inductive LogSource where
  | commandLine
  | discovery
  | graph
deriving DecidableEq

def LogSource.name : LogSource → Text
  | .commandLine => "importgraph.cli"
  | .discovery => "importgraph.discovery"
  | .graph => "importgraph.graph"

structure LogRecord where
  level : LogLevel
  source : LogSource
  message : Text
deriving DecidableEq

namespace LogRecord

def isShown (threshold : Int) (record : LogRecord) : Bool := threshold ≤ record.level.rank

def columns (time level source message : Text) : Text :=
  Text.join " | " [time, level, source, message]

def untimedLine (record : LogRecord) : Text :=
  Text.join " | " [record.level.name, record.source.name, record.message]

end LogRecord

end ImportAtlas
