/-!
# Log lines

What a part of the program reports about its work, with a level of importance.
-/

namespace Sensing

/-- How important a log line is. -/
inductive LogLevel where
  | trace
  | debug
  | info
  | warn
  | error
  deriving DecidableEq, Repr

namespace LogLevel

def label : LogLevel → String
  | .trace => "TRACE"
  | .debug => "DEBUG"
  | .info => "INFO"
  | .warn => "WARN"
  | .error => "ERROR"

/-- Whether lines of the level are meant for everybody, not only for a search for errors. -/
def isGeneral : LogLevel → Bool
  | .trace | .debug => false
  | .info | .warn | .error => true

end LogLevel

/-- One line of a log. -/
structure LogLine where
  level : LogLevel
  message : String
  deriving DecidableEq, Repr

namespace LogLine

/-- The level and the message. -/
def text (l : LogLine) : String := l.level.label ++ " " ++ l.message

end LogLine

end Sensing
