import QuizHall.Fault
import QuizHall.Quiz.Basic
import QuizHall.Table

/-!
# Stores in memory

Quizzes, their keys, the buckets of scheduled ids and the counter, each in a table of its own.

## Main definitions

* `MemoryStore`: the tables and the counter.
* `MemoryStore.createQuiz`, `MemoryStore.deleteQuiz`, `MemoryStore.appendBucket`,
  `MemoryStore.removeBucket`, `MemoryStore.putCounter`: the changes.
-/

namespace QuizHall

/-- Quizzes, keys, buckets and the counter. -/
structure MemoryStore where
  /-- The quiz of each id. -/
  quizzes : Table String Quiz := Table.empty
  /-- The key of each id. -/
  keys : Table String Answers := Table.empty
  /-- The ids in each bucket, in the order of their scheduling. -/
  buckets : Table String (List String) := Table.empty
  /-- The number of the latest quiz. -/
  counter : Int := 0

namespace MemoryStore

/-- Stores a quiz and its key under an id that is free in both tables. -/
def createQuiz (m : MemoryStore) (id : String) (quiz : Quiz) (key : Answers) :
    Except Fault MemoryStore :=
  if m.quizzes.contains id ∨ m.keys.contains id then .error (.idTaken id)
  else .ok { m with quizzes := m.quizzes.insert id quiz, keys := m.keys.insert id key }

/-- Removes a quiz and its key, as far as they are there. -/
def deleteQuiz (m : MemoryStore) (id : String) : MemoryStore :=
  { m with quizzes := m.quizzes.erase id, keys := m.keys.erase id }

/-- The ids in a bucket. -/
def bucket (m : MemoryStore) (bucket : String) : List String := (m.buckets.find? bucket).getD []

/-- Appends an id to a bucket. -/
def appendBucket (m : MemoryStore) (bucket id : String) : MemoryStore :=
  { m with buckets := m.buckets.insert bucket (m.bucket bucket ++ [id]) }

/-- Removes a bucket. -/
def removeBucket (m : MemoryStore) (bucket : String) : MemoryStore :=
  { m with buckets := m.buckets.erase bucket }

/-- Moves the counter to a number above the latest one. -/
def putCounter (m : MemoryStore) (n : Int) : Except Fault MemoryStore :=
  if n ≤ m.counter then .error (.counterNotGrowing n m.counter) else .ok { m with counter := n }

end MemoryStore

end QuizHall
