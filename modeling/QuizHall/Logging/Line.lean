import QuizHall.Logging.Notice
import QuizHall.Template.Fill

/-!
# Lines with a time

The standard line of the log: the time in UTC, the logger, the level, the user and the message.
A message can be a template whose places are filled by arguments.

## Main definitions

* `Timestamp.civil`, `Timestamp.text`: the calendar day and time of a number of seconds.
* `LineParts`, `LineParts.line`: what a line is made of, and the line.
-/

namespace QuizHall

-- Powers are those of the core library, whatever else is imported.
attribute [local instance (2000)] instPowNat

/-! ### Time -/

namespace Timestamp

/-- A day of the calendar. -/
structure Day where
  /-- The year. -/
  year : Int
  /-- The month, from 1. -/
  month : Nat
  /-- The day of the month, from 1. -/
  day : Nat
  deriving DecidableEq

/-- The day that lies a number of days after 1 January 1970. Years are counted from March, so
that a leap day comes last, and grouped into eras of 400 years, which all have the same number
of days. -/
def civil (days : Int) : Day :=
  let shifted := days + 719468
  let era := shifted.fdiv 146097
  let dayOfEra := (shifted - era * 146097).toNat
  let yearOfEra :=
    (dayOfEra - dayOfEra / 1460 + dayOfEra / 36524 - dayOfEra / 146096) / 365
  let dayOfYear := dayOfEra - (365 * yearOfEra + yearOfEra / 4 - yearOfEra / 100)
  let month := (5 * dayOfYear + 2) / 153
  let day := dayOfYear - (153 * month + 2) / 5 + 1
  let month := if month < 10 then month + 3 else month - 9
  ⟨yearOfEra + era * 400 + (if month ≤ 2 then 1 else 0), month, day⟩

example : civil 0 = ⟨1970, 1, 1⟩ := by decide
example : civil 11016 = ⟨2000, 2, 29⟩ := by decide
example : civil 47482 = ⟨2100, 1, 1⟩ := by decide
example : civil (-1) = ⟨1969, 12, 31⟩ := by decide

/-- The time of a number of seconds after 1970, to the second. -/
def text (seconds : Int) : String :=
  let day := civil (seconds.fdiv 86400)
  let rest := (seconds.fmod 86400).toNat
  Integer.text day.year ++ "-" ++ Integer.padded 2 day.month ++ "-" ++ Integer.padded 2 day.day ++
    " " ++ Integer.padded 2 (rest / 3600) ++ ":" ++ Integer.padded 2 (rest / 60 % 60) ++ ":" ++
    Integer.padded 2 (rest % 60)

end Timestamp

/-! ### The line -/

/-- The template of a line, by the names of its parts. -/
def lineFormat : String :=
  joinParts ["%(asctime)s", "%(name)s", "%(levelname)s", "%(user)s", "%(message)s"]

/-- The template of a time to the millisecond. -/
def timeFormat : String := "%s,%03d"

/-- Why a line cannot be made. -/
inductive LineFault where
  /-- A template does not match its arguments. -/
  | mismatch (m : Template.Mismatch)
  /-- The time is more than 64 bits of seconds can tell. -/
  | beyondClock
  /-- The year has too many digits. -/
  | beyondCalendar
  deriving DecidableEq

namespace LineFault

/-- The wording of a fault. -/
def message : LineFault → String
  | mismatch m => m.message
  | beyondClock => "timestamp out of range for platform time_t"
  | beyondCalendar => "[Errno 75] Value too large for defined data type"

end LineFault

namespace Timestamp

/-- The time of a number of seconds, if clock and calendar can tell it. -/
def text? (seconds : Int) : Except LineFault String :=
  if seconds < -2 ^ (63 : Nat) ∨ 2 ^ (63 : Nat) ≤ seconds then .error .beyondClock
  else
    let year := (civil (seconds.fdiv 86400)).year - 1900
    if year < -2 ^ (31 : Nat) ∨ 2 ^ (31 : Nat) ≤ year then .error .beyondCalendar
    else .ok (text seconds)

end Timestamp

/-- What a line is made of. -/
structure LineParts where
  /-- The time in seconds after 1970; none, if that is no number. -/
  seconds? : Option Int
  /-- The milliseconds. -/
  millis : Json.Value
  /-- The name of the logger. -/
  logger : Json.Value
  /-- The name of the level. -/
  level : String
  /-- On whose behalf the line is written. -/
  user : Json.Value
  /-- The message, a template if there are arguments. -/
  template : Json.Value
  /-- The arguments. -/
  args : List Json.Value

/-- What the line of a record is made of, at a number of milliseconds after 1970. -/
def LineParts.ofRecord (millis : Int) (r : LogRecord) : LineParts where
  seconds? := some (millis.fdiv 1000)
  millis := .int (millis.fmod 1000)
  logger := .text r.notice.logger.name
  level := r.notice.level.name
  user := .text r.user
  template := .text r.notice.message
  args := []

/-- The name that a level is published by, for each of its other names. -/
def publishedLevels : List (String × String) := [("WARN", "WARNING"), ("FATAL", "CRITICAL")]

namespace LineParts

/-- The message with its places filled. -/
def message (p : LineParts) : Except LineFault String :=
  (Template.fill (Template.plain p.template) p.args).mapError .mismatch

/-- The time to the millisecond. -/
def time (p : LineParts) : Except LineFault String := do
  match p.seconds? with
  | none => .error .beyondClock
  | some seconds =>
    let text ← Timestamp.text? seconds
    (Template.fill timeFormat [.text text, p.millis]).mapError .mismatch

/-- The line. A fault of the message comes before one of the time. -/
def line (p : LineParts) : Except LineFault String := do
  let message ← p.message
  let time ← p.time
  let level := (publishedLevels.lookup p.level).getD p.level
  return joinParts [time, Template.plain p.logger, level, Template.plain p.user, message]

end LineParts

end QuizHall
