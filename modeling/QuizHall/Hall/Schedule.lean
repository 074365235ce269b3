import QuizHall.Hall.Service

/-!
# The schedule of deletions

Every tick has a bucket, and a quiz is put into the bucket of the tick at which it falls due. A
bucket holds nothing but ids. A quiz may be gone before its bucket fires, so whoever empties the
bucket has to put up with ids that lead nowhere.

## Main definitions

* `Schedule`: how buckets are named, and how far ahead quizzes are scheduled.
* `Schedule.add`, `Schedule.fire`, `Schedule.pending`: filling, emptying and reading a bucket.
-/

namespace QuizHall

/-- How buckets are named, and how far ahead quizzes are scheduled. -/
structure Schedule where
  /-- The id of the bucket of a tick. -/
  derive : Deriver
  /-- The number of ticks between scheduling and falling due. -/
  delay : Int
  /-- No quiz falls due in the tick in which it is scheduled. -/
  one_le_delay : 1 ≤ delay

namespace Schedule

/-- The schedule of a delay, if it is one tick or more. -/
def ofDelay (derive : Deriver) (delay : Int) : Except Fault Schedule :=
  if h : 1 ≤ delay then .ok ⟨derive, delay, h⟩ else .error .delayTooShort

/-- Puts an id into the bucket that falls due `delay` ticks after `now`, and gives that tick. -/
def add (s : Schedule) (now : Int) (id : String) : Act Int := do
  let due := now + s.delay
  Act.appendBucket (← Act.ofExcept (s.derive due)) id
  Act.note (.scheduled id due)
  return due

/-- Empties the bucket of a tick and gives the ids that were in it, in the order of their
scheduling. -/
def fire (s : Schedule) (tick : Int) : Act (List String) := do
  let ids ← Act.drainBucket (← Act.ofExcept (s.derive tick))
  if ids ≠ [] then Act.note (.fired tick ids.length)
  return ids

/-- The ids in the bucket of a tick. -/
def pending (s : Schedule) (tick : Int) : Act (List String) := do
  Act.bucket (← Act.ofExcept (s.derive tick))

end Schedule

/-- The schedule that the rules of a hall ask for. -/
def Rules.schedule (rules : Rules) : Schedule := ⟨rules.derive, rules.delay, rules.one_le_delay⟩

end QuizHall
