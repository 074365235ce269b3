import QuizHall.Identifier
import QuizHall.Ledger
import QuizHall.Logging.Notice
import QuizHall.Store.Stores

/-!
# The state of a hall

A hall is what its operations read and change: its stores and its ledger, its clock, and the
traces that it leaves behind. The rules of a hall are fixed when it is opened, so
they are kept apart from its state.

## Main definitions

* `Rules`: the numbers and the hash function that a hall is run by.
* `Hall`: the state.
-/

namespace QuizHall

/-! ### Rules -/

/-- What a hall is run by. -/
structure Rules where
  /-- The hash function that ids are derived with. -/
  hash : HashService
  /-- How many ticks a quiz lives. -/
  delay : Int
  /-- What a wrong answer costs. -/
  tokensPerQuestion : Int
  /-- Whether the fifth answer of a key is checked too. -/
  checksAllAnswers : Bool := false
  /-- Whether published events are kept; if not, they are lost without a trace. -/
  keepsEvents : Bool := true
  /-- A quiz lives at least one tick. -/
  one_le_delay : 1 ≤ delay
  /-- A wrong answer costs nothing or something. -/
  tokensPerQuestion_nonneg : 0 ≤ tokensPerQuestion

namespace Rules

/-- The rules that settings name. -/
def ofSettings (settings : Settings) (hash : HashService) (keepsEvents : Bool) : Rules where
  hash := hash
  delay := settings.deletionDelay
  tokensPerQuestion := settings.tokensPerQuestion
  checksAllAnswers := settings.validateAllAnswers
  keepsEvents := keepsEvents
  one_le_delay := settings.one_le_deletionDelay
  tokensPerQuestion_nonneg := settings.tokensPerQuestion_nonneg

/-- The id of the number of a quiz or of a tick. -/
def derive (rules : Rules) : Deriver := Deriver.ofHash rules.hash

end Rules

/-! ### The state -/

/-- A wait for the next tick. -/
structure Nap where
  /-- The tick at which it began. -/
  tick : Int
  /-- How long it took, in seconds. -/
  seconds : Float

/-- The state of a hall. -/
structure Hall where
  /-- Quizzes, keys, buckets, the counter and ratings. -/
  stores : Stores
  /-- The balances of all accounts. -/
  ledger : Ledger
  /-- The current tick. -/
  clock : Int := 0
  /-- The events that were published and kept, the oldest first. -/
  events : List Event := []
  /-- The records that were written to the log, the oldest first. -/
  log : List LogRecord := []
  /-- The statements that were sent to the relational table, the oldest first. -/
  statements : List Statement := []
  /-- The waits of the loop over the ticks, the latest first. -/
  naps : List Nap := []
  /-- The calls that are out of order, with the kind of fault that each of them raises. -/
  outages : Table Call FaultKind := Table.empty

end QuizHall
