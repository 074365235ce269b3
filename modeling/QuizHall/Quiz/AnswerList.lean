import QuizHall.Quiz.Record
import QuizHall.Validation.Verdict

/-!
# Answers in a row

Answers are handed in as a list of five values, one for each question.

## Main definitions

* `Answers.ofItems`: the answers that a list holds.
-/

namespace QuizHall

open Json (Value)

/-- The answers that a list holds. The number of values is checked first, then each of them. -/
def Answers.ofItems (items : List Value) : Except Fault Answers :=
  match items with
  | [v1, v2, v3, v4, v5] =>
    (Answers.ofForm [("answer1", v1), ("answer2", v2), ("answer3", v3), ("answer4", v4),
      ("answer5", v5)]).toExcept
  | _ =>
    if items.length < questionsPerQuiz then .error (.tooFewAnswers items.length)
    else .error .tooManyAnswers

end QuizHall
