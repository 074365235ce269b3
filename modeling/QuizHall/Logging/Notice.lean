import QuizHall.Event
import QuizHall.Fault
import QuizHall.Settings.Basic

/-!
# Notices

What the hall writes to its log. A notice says what happened; the logger it goes to, its level
and its wording follow from that. A log record is a notice together with the account on whose
behalf it was written.

## Main definitions

* `Notice`: what is worth a line in the log.
* `Notice.logger`, `Notice.level`, `Notice.message`.
* `LogRecord`, `LogRecord.line`: a notice with its user, and the line that it makes.
-/

namespace QuizHall

/-- How urgent a line of the log is. -/
inductive Level where
  /-- All is well. -/
  | info
  /-- Something failed and was dealt with. -/
  | error
  /-- The stores contradict themselves. -/
  | critical
  deriving DecidableEq

/-- The name of a level. -/
def Level.name : Level → String
  | info => "INFO"
  | error => "ERROR"
  | critical => "CRITICAL"

/-- The named logs that lines go to. -/
inductive Logger where
  /-- The rules of the hall. -/
  | useCases
  /-- The services around the hall. -/
  | infrastructure
  /-- The published events. -/
  | events
  /-- The running program. -/
  | runtime
  deriving DecidableEq

namespace Logger

/-- The name of a logger. -/
def name : Logger → String
  | useCases => "use_cases"
  | infrastructure => "infrastructure"
  | events => "events"
  | runtime => "runtime"

/-- All loggers. -/
def all : List Logger := [useCases, infrastructure, events, runtime]

end Logger

/-- What is worth a line in the log. -/
inductive Notice where
  /-- An id was put into the bucket of a tick. -/
  | scheduled (id : String) (due : Int)
  /-- A bucket that was not empty was emptied. -/
  | fired (tick : Int) (count : Nat)
  /-- The id of a new quiz was taken already. -/
  | idTaken (id : String) (sequence : Int)
  /-- A quiz was created. -/
  | created (sequence due : Int)
  /-- A quiz was attempted. -/
  | attempted (sequence : Int) (score : Nat)
  /-- A quiz was deleted by its owner. -/
  | removed (sequence : Int)
  /-- A rating changed. -/
  | rated (prior rating : Int)
  /-- Tokens moved. -/
  | transferred (amount : Int) (dest : String)
  /-- An event was published. -/
  | published (event : Event)
  /-- An event could not be published. -/
  | unpublished (kind : EventKind) (cause : Fault)
  /-- A tick deleted quizzes. -/
  | swept (tick : Int) (count : Nat)
  /-- The program started. -/
  | started (storage : StorageBackend) (delay : Int)
  /-- The loop over the ticks broke off. -/
  | brokeOff (cause : Fault)
  deriving DecidableEq

namespace Notice

/-- The log that a notice goes to. -/
def logger : Notice → Logger
  | scheduled .. | fired .. | idTaken .. | created .. | attempted .. | removed _ | rated ..
  | unpublished .. => .useCases
  | transferred .. => .infrastructure
  | published _ => .events
  | swept .. | started .. | brokeOff _ => .runtime

/-- How urgent a notice is. -/
def level : Notice → Level
  | idTaken .. => .critical
  | unpublished .. | brokeOff _ => .error
  | _ => .info

/-- The wording of a notice. A published event stands there as compact JSON. -/
def message : Notice → String
  | scheduled id due => "SCHEDULED QUIZ " ++ id ++ " FOR TICK " ++ Integer.text due
  | fired tick count => "BUCKET FOR TICK " ++ Integer.text tick ++ " FIRED WITH " ++
      Integer.natText count ++ " QUIZZES"
  | idTaken id sequence => "QUIZ ID " ++ id ++ " FOR SEQUENCE " ++ Integer.text sequence ++
      " IS ALREADY TAKEN"
  | created sequence due => "CREATED QUIZ " ++ Integer.text sequence ++ ", DELETION AT TICK " ++
      Integer.text due
  | attempted sequence score => "ATTEMPTED QUIZ " ++ Integer.text sequence ++ " WITH SCORE " ++
      Integer.natText score
  | removed sequence => "DELETED QUIZ " ++ Integer.text sequence
  | rated prior rating => "RATING " ++ Integer.text prior ++ " -> " ++ Integer.text rating
  | transferred amount dest => "TRANSFERRED " ++ Integer.text amount ++ " TO " ++ dest
  | published event => event.toValue.compact
  | unpublished kind cause => "Error while emitting " ++ kind.tag ++ ": " ++ cause.message
  | swept tick count => "TICK " ++ Integer.text tick ++ " DELETED " ++ Integer.natText count ++
      " QUIZZES"
  | started storage delay => "ENGINE STARTED WITH " ++ storage.word ++
      " STORAGE, DELETION DELAY " ++ Integer.text delay
  | brokeOff cause => "Error in run: " ++ cause.message

end Notice

/-- The user of a line that no account stands behind. -/
def systemUser : String := "SYSTEM"

/-- A notice and the user on whose behalf it was written. -/
structure LogRecord where
  /-- What happened. -/
  notice : Notice
  /-- The account behind it, or `SYSTEM`. -/
  user : String := systemUser
  deriving DecidableEq

/-- The parts of a line, with what stands between them. -/
def joinParts (parts : List String) : String := String.intercalate " - " parts

/-- The line of a record, without its time. -/
def LogRecord.line (r : LogRecord) : String :=
  joinParts [r.notice.logger.name, r.notice.level.name, r.user, r.notice.message]

end QuizHall
