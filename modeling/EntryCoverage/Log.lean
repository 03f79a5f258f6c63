/-!
# Log Lines

What a run tells its user, line by line. Every line has a level, which shows as a
sign before the message. Messages may hold marks in square brackets that say how a
part of them is to be shown.

## Main definitions

* `LogLevel`: The levels.
* `LogLine`: A line of the log.
-/

namespace EntryCoverage

inductive LogLevel
  | info | success | warning | error
deriving DecidableEq, Repr

namespace LogLevel

def name : LogLevel → String
  | info => "INFO"
  | success => "SUCCESS"
  | warning => "WARNING"
  | error => "ERROR"

/-- The sign before a message. -/
def sign : LogLevel → String
  | info => "ℹ️  "
  | success => "✅ "
  | warning => "⚠️  "
  | error => "❌ "

end LogLevel

structure LogLine where
  level : LogLevel
  message : String
deriving DecidableEq, Repr

namespace LogLine

/-- The text of a line, with its sign. -/
def text (l : LogLine) : String := l.level.sign ++ l.message

end LogLine

end EntryCoverage
