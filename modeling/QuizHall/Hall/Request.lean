import QuizHall.Hall.TickLoop

/-!
# Requests

What a hall can be asked to do, as data. Where each request is carried out to its end before the
next one begins, a run is a list of requests.

## Main definitions

* `Request`, `Answer`: what is asked, and what is answered.
* `Request.act`: the operation that answers a request.
* `Hall.serve`: a hall after a list of requests, with the outcome of each.
-/

namespace QuizHall

/-- What a hall can be asked to do. -/
inductive Request where
  /-- Create a quiz. -/
  | create (ctx : CallContext) (questions : List Question) (key : Answers) (gate : Json.Value)
  /-- Attempt the quiz of a number. -/
  | attempt (ctx : CallContext) (sequence : Int) (submission : Answers)
  /-- Delete the quiz of a number. -/
  | delete (ctx : CallContext) (sequence : Int)
  /-- Delete what falls due at a tick. -/
  | tick (tick : Int)
  /-- Move the clock on. -/
  | advance
  /-- Move the clock on and delete what falls due. -/
  | step
  /-- Wait and step a number of times. -/
  | loop (seconds : Float) (n : Nat)
  /-- Show the quiz of a number. -/
  | quiz (sequence : Int)
  /-- Show the rating of an account. -/
  | rating (account : String)
  /-- Show the number of the latest quiz. -/
  | latest
  /-- Show what is scheduled for a tick. -/
  | pending (tick : Int)

/-- What a hall answers. -/
inductive Answer where
  /-- It is done. -/
  | done
  /-- A number. -/
  | number (n : Int)
  /-- Some ids. -/
  | ids (ids : List String)
  /-- A quiz, if there is one. -/
  | quiz (quiz : Option Quiz)
  deriving DecidableEq

/-- The operation that answers a request. -/
def Request.act (rules : Rules) : Request → Act Answer
  | create ctx questions key gate => .number <$> Act.create rules ctx questions key gate
  | attempt ctx sequence submission =>
    (fun score : Nat => .number score) <$> Act.attempt rules ctx sequence submission
  | delete ctx sequence => (fun _ => .done) <$> Act.delete rules ctx sequence
  | tick now => .ids <$> Act.onTick rules now
  | advance => .number <$> Act.advance
  | step => .number <$> Act.step rules
  | loop seconds n => (fun _ => .done) <$> Act.loop rules seconds n
  | quiz sequence => .quiz <$> Act.getQuiz rules sequence
  | rating account => .number <$> Act.rating account
  | latest => .number <$> Act.counter
  | pending due => .ids <$> rules.schedule.pending due

/-- The outcomes of a list of requests, and the hall in the end. A request that fails does not
keep the next one from being served. -/
def Hall.serve (rules : Rules) (hall : Hall) : List Request → List (Except Fault Answer) × Hall
  | [] => ([], hall)
  | request :: rest =>
    let (outcome, hall') := (request.act rules).run hall
    let (outcomes, last) := Hall.serve rules hall' rest
    (outcome :: outcomes, last)

end QuizHall
