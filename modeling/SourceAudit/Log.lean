/-!
# The log

Log entries have a level, the name of the part that wrote them and a text. The command line shows
those of at least the level that was asked for, one after the other.
-/

namespace SourceAudit

/-- How important a log entry is. -/
inductive Level where
  | debug
  | info
  | warning
  | error
  deriving DecidableEq, Repr

namespace Level

def label : Level → String
  | .debug => "DEBUG"
  | .info => "INFO"
  | .warning => "WARNING"
  | .error => "ERROR"

def rank : Level → Nat
  | .debug => 0
  | .info => 1
  | .warning => 2
  | .error => 3

end Level

/-- One entry of the log. -/
structure LogEntry where
  level : Level
  source : String
  text : String
  deriving DecidableEq, Repr

namespace LogEntry

def line (e : LogEntry) : String :=
  e.level.label ++ " " ++ e.source ++ ": " ++ e.text ++ "\n"

/-- The lines of the entries of at least the given level. -/
def render (least : Level) (log : List LogEntry) : String :=
  String.join ((log.filter fun e => least.rank ≤ e.level.rank).map line)

end LogEntry

end SourceAudit
