import QuizHall.Logging.Line

/-!
# The logging setup

Which handlers the loggers write to, at which level, and in which format: always the console,
and a file if one is named.

## Main definitions

* `LoggingSetup`: the file and the level.
* `LoggingSetup.toValue`: the whole setup as a record.
-/

namespace QuizHall

open Json (Value)

/-- The file and the level that logging is set up with. -/
structure LoggingSetup where
  /-- The file that lines are appended to, besides the console. -/
  logFile : Option String := none
  /-- The least level that is written. -/
  level : String := "INFO"
  deriving DecidableEq

namespace LoggingSetup

/-- The file that is really written to: an empty name stands for none. -/
def file? (s : LoggingSetup) : Option String := s.logFile.filter (· ≠ "")

/-- The name of the filter that gives a line its user. -/
def filterName : String := "user_filter"

/-- A handler of a class, with what it needs besides. -/
def handler (s : LoggingSetup) (className : String) (extra : List (String × Value)) : Value :=
  .object ([("level", .text s.level), ("class", .text className),
    ("formatter", .text "standard"), ("filters", Value.texts [filterName])] ++ extra)

/-- The handlers, by their names. -/
def handlers (s : LoggingSetup) : List (String × Value) :=
  ("console", s.handler "logging.StreamHandler" []) ::
    (s.file?.map fun f => ("file", s.handler "logging.FileHandler" [("filename", .text f)])).toList

/-- The names of the handlers that every logger writes to. -/
def handlerNames (s : LoggingSetup) : List String :=
  if s.file?.isSome then ["file", "console"] else ["console"]

/-- A logger; only the root hands its lines on. -/
def logger (s : LoggingSetup) (isRoot : Bool) : Value :=
  .object [("handlers", Value.texts s.handlerNames), ("level", .text s.level),
    ("propagate", .flag isRoot)]

/-- The whole setup as a record. -/
def toValue (s : LoggingSetup) : Value :=
  .object [("version", .int 1), ("disable_existing_loggers", .flag false),
    ("formatters", .object [("standard", .object [("format", .text lineFormat)])]),
    ("filters", .object [(filterName, .object [("()", .text "UserFilter")])]),
    ("handlers", .object s.handlers),
    ("loggers", .object ((Logger.all.map fun l => (l.name, s.logger false)) ++
      [("", s.logger true)]))]

end LoggingSetup

end QuizHall
