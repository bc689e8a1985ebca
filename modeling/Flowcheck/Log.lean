/-!
# Log entries

What a component reports beside its answer. An entry has a level and names the component it comes
from. A few entries end in an elapsed time; the library has no clock, so such an entry is only
marked, and whoever prints it supplies the time.
-/

namespace Flowcheck

/-- How serious an entry is, in ascending order. -/
inductive LogLevel where
  | debug
  | info
  | warning
  | error
  deriving DecidableEq, Repr

namespace LogLevel

/-- The rank of a level. -/
def rank : LogLevel → Nat
  | .debug => 0
  | .info => 1
  | .warning => 2
  | .error => 3

/-- The name of a level. -/
def name : LogLevel → String
  | .debug => "DEBUG"
  | .info => "INFO"
  | .warning => "WARNING"
  | .error => "ERROR"

/-- The name of a level, cut or filled to five characters. -/
def tag : LogLevel → String
  | .debug => "DEBUG"
  | .info => "INFO "
  | .warning => "WARNI"
  | .error => "ERROR"

end LogLevel

/-- One entry of a log. -/
structure LogEntry where
  level : LogLevel
  source : String
  message : String
  timed : Bool := false
  deriving DecidableEq, Repr

namespace LogEntry

/-- The entry as a line, with `elapsed` as the time of a timed one. -/
def line (e : LogEntry) (elapsed : String) : String :=
  "[" ++ e.level.tag ++ "] " ++ e.source ++ ": " ++ e.message ++
    (if e.timed then elapsed ++ "s" else "")

/-- The entries of at least a level. -/
def atLeast (threshold : LogLevel) (log : List LogEntry) : List LogEntry :=
  log.filter fun e ↦ threshold.rank ≤ e.level.rank

end LogEntry

end Flowcheck
