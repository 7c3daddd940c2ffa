/-! # Log lines

    What an operation has to say beside its result is a list of events.  Every kind of event has
    a level and one wording; `LogLine` is that pair.
-/

namespace KotlinMetadata

/-- How much attention a log line asks for. -/
inductive LogLevel where
  /-- A single decision. -/
  | trace
  /-- The outcome of one operation. -/
  | debug
  /-- Something that should not have happened. -/
  | warn
deriving DecidableEq, Repr

/-- A line of the log. -/
structure LogLine where
  /-- How much attention it asks for. -/
  level : LogLevel
  /-- Its wording. -/
  message : String
deriving DecidableEq, Repr

/-- The level as it is written in front of a line. -/
def LogLevel.label : LogLevel → String
  | .trace => "TRACE"
  | .debug => "DEBUG"
  | .warn => "WARN"

/-- The whole line: level, blank, wording. -/
def LogLine.text (line : LogLine) : String :=
  line.level.label ++ " " ++ line.message

end KotlinMetadata
