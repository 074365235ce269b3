import QuizHall.Hall.Attempt
import QuizHall.Hall.Schedule

/-!
# The lifetime of a quiz

A quiz is created by its owner under the next free number, and scheduled for deletion. It is
deleted by its owner, or by the tick at which it falls due.

## Main definitions

* `Act.create`, `Act.delete`, `Act.onTick`: the beginning and the two ends of a quiz, each under
  the lock; `Act.enter`, `Act.deleteBy`, `Act.expire` are what they do there.
* `Rules.newQuiz`: the checks that a quiz has to pass before anything is stored.
* `Act.book`: scheduling and counting, which are undone together with the storing of the quiz.
-/

namespace QuizHall

/-- The quiz that a call asks for. The signer is checked first, then the number of questions,
the answers of the key, and the gate. -/
def Rules.newQuiz (rules : Rules) (ctx : CallContext) (questions : List Question) (key : Answers)
    (gate : Json.Value) : Except Fault Quiz :=
  ctx.sender.bind fun sender =>
    if five : questions.length = questionsPerQuiz then
      if key.areOptions rules.checksAllAnswers then
        (Quiz.withGate sender questions five gate).toExcept
      else .error .answerOutOfRange
    else .error (.questionCount questions.length)

namespace Act

/-- Stores a new quiz. An id that is taken means that the stores contradict the counter, so it is
noted before the call fails. -/
def place (sequence : Int) (id : String) (quiz : Quiz) (key : Answers) : Act Unit :=
  (createQuiz id quiz key).rescue fun fault => do
    if fault.kind = .alreadyExists then note (.idTaken id sequence) quiz.owner
    throw fault

/-- Schedules the deletion of a new quiz and moves the counter, and gives the tick at which the
quiz falls due. The counter goes last, so that a failure before leaves it where it was. -/
def book (rules : Rules) (sequence : Int) (id : String) : Act Int := do
  let due ← rules.schedule.add (← get).clock id
  putCounter sequence
  return due

/-- Stores a quiz under the next number and gives that number. If scheduling or counting fails,
the quiz is taken out of the stores again. -/
def enter (rules : Rules) (quiz : Quiz) (key : Answers) : Act Int := do
  let sequence := (← counter) + 1
  let id ← ofExcept (rules.derive sequence)
  place sequence id quiz key
  let due ← (book rules sequence id).rescue fun fault => do
    deleteQuiz id
    throw fault
  note (.created sequence due) quiz.owner
  publish rules (.created sequence quiz.owner quiz.gate.val)
  return sequence

/-- Creates the quiz that a call asks for, under the lock once the call has passed its checks. -/
def create (rules : Rules) (ctx : CallContext) (questions : List Question) (key : Answers)
    (gate : Json.Value) : Act Int := do
  let quiz ← ofExcept (rules.newQuiz ctx questions key gate)
  locked (enter rules quiz key)

/-- Deletes the quiz of a number, with its key, on behalf of an account. Only its owner may do that.
The bucket that the quiz is scheduled in keeps the id. -/
def deleteBy (rules : Rules) (sender : String) (sequence : Int) : Act Unit := do
  let id ← ofExcept (rules.derive sequence)
  let quiz ← found (.noQuiz sequence) (← quiz? id)
  ensure (sender = quiz.owner) (.notOwner sequence sender)
  deleteQuiz id
  note (.removed sequence) sender

/-- Deletes a quiz of the caller under the lock. -/
def delete (rules : Rules) (ctx : CallContext) (sequence : Int) : Act Unit := do
  let sender ← ofExcept ctx.sender
  locked (deleteBy rules sender sequence)

/-- Deletes the quizzes of some ids, as far as they are there, and publishes a deletion for every
id. -/
def sweep (rules : Rules) (tick : Int) : List String → Act Unit
  | [] => pure ()
  | id :: ids => do
    deleteQuiz id
    publish rules (.deleted tick)
    sweep rules tick ids

/-- Deletes the quizzes that fall due at a tick, and gives the ids that were scheduled for it. -/
def expire (rules : Rules) (tick : Int) : Act (List String) := do
  let ids ← rules.schedule.fire tick
  sweep rules tick ids
  return ids

/-- Deletes what falls due at a tick, under the lock. -/
def onTick (rules : Rules) (tick : Int) : Act (List String) := locked (expire rules tick)

/-! ### Reading -/

/-- The quiz of a number, without its key. -/
def getQuiz (rules : Rules) (sequence : Int) : Act (Option Quiz) := do
  quiz? (← ofExcept (rules.derive sequence))

/-- The key of the quiz of a number. -/
def getKey (rules : Rules) (sequence : Int) : Act (Option Answers) := do
  key? (← ofExcept (rules.derive sequence))

end Act

end QuizHall
