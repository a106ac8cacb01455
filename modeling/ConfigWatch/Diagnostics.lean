import ConfigWatch.Protocol.Messages
import ConfigWatch.Status

/-!
# Diagnostics

What the server has to say about a document it compiled: log entries, and the source files that
their positions refer to.
-/

set_option autoImplicit false

namespace ConfigWatch

/-- A diagnostic of the server. -/
structure Log where
  level : LogLevel
  message : String
  position : Option Position
  origin : Option Position
deriving DecidableEq, Inhabited

/-- A log entry written out locally: its level, its line and the text of its place. -/
structure LogLine where
  level : LogLevel
  line : String
  place : String
deriving DecidableEq, Inhabited

namespace Log

/-- A diagnostic as it was sent; an unknown level counts as an error. -/
def ofEntry (entry : LogEntry) : Log :=
  ⟨LogLevel.ofCode entry.level, entry.message, entry.position, entry.origin⟩

def ofEntries (entries : List LogEntry) : List Log := entries.map ofEntry

def emit (context : String) (log : Log) : LogLine :=
  ⟨log.level, "[" ++ context ++ "] " ++ log.message, (log.position.map Position.toText).getD ""⟩

def lowestLevel? (logs : List Log) : Option LogLevel :=
  logs.foldl (fun lowest log =>
    match lowest with
    | none => some log.level
    | some level => some (if log.level.rank < level.rank then log.level else level)) none

end Log

namespace Source

/-- Files under the source in its place, in ascending order of the ids. A source with the id of
an earlier one replaces it. -/
def file (source : Source) : List (UInt32 × Source) → List (UInt32 × Source)
  | [] => [(source.id, source)]
  | (id, held) :: rest =>
    if source.id = id then (id, source) :: rest
    else if source.id < id then (source.id, source) :: (id, held) :: rest
    else (id, held) :: source.file rest

/-- The sources of a message by their ids; of two sources with one id the last. -/
def index (sources : List Source) : List (UInt32 × Source) :=
  sources.foldl (fun filed source => source.file filed) []

end Source

end ConfigWatch
