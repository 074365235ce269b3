/-!
# Quizzes, answers and scores

A quiz belongs to an account, has five questions with four options each, and a gate: the rating
that an account needs to attempt it, with one point of tolerance. Answers name one option number
for each question; they serve as the key of a quiz and as a submission to it.

## Main definitions

* `Question`, `Quiz`, `Answers`.
* `Answers.score`: how many answers of a submission agree with a key.
* `Answers.areOptions`: whether the answers that are looked at are option numbers.
-/

namespace QuizHall

/-- How many questions a quiz has. -/
def questionsPerQuiz : Nat := 5

/-- The score of a submission without a wrong answer. -/
def maxScore : Nat := 5

/-- The number of the first option of a question. -/
def minOption : Nat := 1

/-- The number of the last option of a question. -/
def maxOption : Nat := 4

/-- A question with its four options. -/
structure Question where
  /-- What is asked. -/
  statement : String
  /-- The option that is answered with 1. -/
  option1 : String
  /-- The option that is answered with 2. -/
  option2 : String
  /-- The option that is answered with 3. -/
  option3 : String
  /-- The option that is answered with 4. -/
  option4 : String
  deriving DecidableEq, Inhabited

/-- A quiz: its owner, its five questions in order, and its gate. -/
structure Quiz where
  /-- The account that created the quiz. -/
  owner : String
  /-- The questions; an answer belongs to the question of the same place. -/
  questions : List Question
  /-- The rating that the quiz is meant for. -/
  gate : Fin 256
  /-- There are five questions. -/
  size_questions : questions.length = questionsPerQuiz
  deriving DecidableEq

/-- One answer for each question, in the order of the questions. -/
structure Answers where
  /-- The answer to the first question. -/
  answer1 : Fin 256
  /-- The answer to the second question. -/
  answer2 : Fin 256
  /-- The answer to the third question. -/
  answer3 : Fin 256
  /-- The answer to the fourth question. -/
  answer4 : Fin 256
  /-- The answer to the fifth question. -/
  answer5 : Fin 256
  deriving DecidableEq, Inhabited

/-- A call to the hall, with the account that signed it, if one did. -/
structure CallContext where
  /-- The account that signed the call. -/
  signer : Option String
  deriving DecidableEq

namespace Answers

/-- The answers in the order of the questions. -/
def toList (a : Answers) : List (Fin 256) := [a.answer1, a.answer2, a.answer3, a.answer4, a.answer5]

/-- The number of places at which a submission agrees with a key. -/
def score (submission key : Answers) : Nat :=
  (submission.toList.zip key.toList).countP fun p => p.1 = p.2

/-- Whether the answers are numbers of options: the first four of them, or all five. -/
def areOptions (all : Bool) (a : Answers) : Bool :=
  ((if all then a.toList else a.toList.take 4)).all fun n =>
    decide (minOption ≤ n.val ∧ n.val ≤ maxOption)

theorem score_le (submission key : Answers) : submission.score key ≤ maxScore := by
  have h := List.countP_le_length (p := fun p : Fin 256 × Fin 256 => decide (p.1 = p.2))
    (l := submission.toList.zip key.toList)
  simpa [score, toList, maxScore] using h

end Answers

end QuizHall
