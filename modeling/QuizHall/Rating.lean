import QuizHall.Fault

/-!
# Ratings

The rating of an account blends its scores: the first score is taken as it is, and after that
the rating so far weighs five times as much as the latest score. An account without a rating
counts as rated zero.

## Main definitions

* `Rating.blend`: the rating after a score.
* `Rating.checkScore`: which scores count.
* `Rating.required`: the rating that a gate asks for.
-/

namespace QuizHall.Rating

/-- How much the rating so far weighs against the latest score. -/
def historyWeight : Nat := 5

/-- The rating after a score. The division rounds down, also below zero. -/
def blend (prior score : Int) : Int :=
  (prior * historyWeight + score).fdiv (if prior = 0 then 1 else historyWeight + 1)

/-- Only scores from 0 to 5 count. -/
def checkScore (score : Int) : Except Fault Unit :=
  if 0 ≤ score ∧ score ≤ 5 then .ok () else .error (.scoreOutOfRange score)

/-- The rating that a gate asks for: one point below the gate, and nothing at an open one. -/
def required (gate : Int) : Int := max (gate - 1) 0

end QuizHall.Rating
