import QuizHall.Hall.Act

/-!
# Calls to the services of a hall

Everything that the operations of a hall do to its stores, its ledger and its event sink goes
through the calls given here. A call that is out of order fails and does none of its work; any
other call succeeds or leaves the services as they were.

## Main definitions

* `Call.reading`, `Call.writing`: the two shapes of calls.
* `Act.quiz?`, `Act.key?`, `Act.createQuiz`, `Act.deleteQuiz`: quizzes.
* `Act.bucket`, `Act.appendBucket`, `Act.drainBucket`: buckets.
* `Act.counter`, `Act.putCounter`: the counter.
* `Act.rating`, `Act.saveRating`: ratings.
* `Act.balance`, `Act.deposit`, `Act.transfer`: the ledger.
* `Act.emit`: the event sink.
-/

namespace QuizHall

variable {α : Type}

/-! ### The shapes of calls -/

namespace Call

/-- A call that changes the hall, if it succeeds. One that is out of order fails at once; any other
has its answer awaited, and works on the hall as it is by then. -/
def writing (call : Call) (f : Hall → Except Fault (α × Hall)) : Act α :=
  .look fun hall =>
    match hall.outages.find? call with
    | some kind => .fail (.outage call kind)
    | none => .await (.call call) (.look fun hall =>
      match f hall with
      | .ok (a, hall') => .leave hall' (.answer a)
      | .error e => .fail e)

/-- A call that is in order does its work. -/
theorem run_writing {call : Call} {hall : Hall} (inOrder : hall.outages.find? call = none)
    (f : Hall → Except Fault (α × Hall)) :
    (call.writing f).run hall =
      match f hall with
      | .ok (a, hall') => (.ok a, hall')
      | .error e => (.error e, hall) := by
  unfold writing
  simp only [Act.run, inOrder]
  cases f hall <;> rfl

/-- A call that fails, for whatever reason, leaves the hall as it was. -/
theorem run_writing_error {call : Call} {f : Hall → Except Fault (α × Hall)} {hall last : Hall}
    {e : Fault} (h : (call.writing f).run hall = (.error e, last)) : last = hall := by
  unfold writing at h
  simp only [Act.run] at h
  cases ho : hall.outages.find? call with
  | some kind => simp_all [Act.run]
  | none => cases hf : f hall <;> simp_all [Act.run]

/-- A call that changes nothing. -/
def reading (call : Call) (f : Hall → Except Fault α) : Act α :=
  call.writing fun hall => (f hall).map fun a => (a, hall)

/-- A call that changes the stores, if it succeeds. -/
def storing (call : Call) (f : Stores → Except Fault Stores) : Act Unit :=
  call.writing fun hall => (f hall.stores).map fun stores => ((), { hall with stores })

end Call

namespace Hall

/-- The hall after a statement was sent; only a relational table is sent any. -/
def send (hall : Hall) (statement : Statement) : Hall :=
  match hall.stores.ratings with
  | .mysql _ => { hall with statements := hall.statements ++ [statement] }
  | .memory _ | .redis => hall

end Hall

namespace Act

/-! ### Quizzes -/

/-- The quiz of an id. -/
def quiz? (id : String) : Act (Option Quiz) := Call.quizGet.reading fun hall => hall.stores.quiz? id

/-- The key of the quiz of an id. -/
def key? (id : String) : Act (Option Answers) :=
  Call.quizGetKey.reading fun hall => hall.stores.key? id

/-- Stores a quiz and its key under a free id. -/
def createQuiz (id : String) (quiz : Quiz) (key : Answers) : Act Unit :=
  Call.quizCreate.storing fun stores => stores.createQuiz id quiz key

/-- Removes a quiz and its key, as far as they are there. -/
def deleteQuiz (id : String) : Act Unit :=
  Call.quizDelete.storing fun stores => stores.deleteQuiz id

/-! ### Buckets -/

/-- The ids in a bucket. -/
def bucket (bucket : String) : Act (List String) :=
  Call.bucketGet.reading fun hall => hall.stores.bucket bucket

/-- Appends an id to a bucket. -/
def appendBucket (bucket id : String) : Act Unit :=
  Call.bucketAppend.storing fun stores => stores.appendBucket bucket id

/-- Removes a bucket, and gives the ids that were in it. -/
def drainBucket (bucket : String) : Act (List String) := do
  let ids? ← Call.bucketDrain.writing fun hall =>
    (hall.stores.drainBucket bucket).map fun (ids?, stores) => (ids?, { hall with stores })
  ofExcept ids?

/-! ### The counter -/

/-- The number of the latest quiz. -/
def counter : Act Int := Call.counterGet.reading fun hall => hall.stores.counter

/-- Moves the counter. -/
def putCounter (n : Int) : Act Unit := Call.counterPut.storing fun stores => stores.putCounter n

/-! ### Ratings -/

/-- The rating of an account; zero if none was ever stored. -/
def rating (account : String) : Act Int :=
  Call.ratingGet.writing fun hall =>
    (hall.stores.rating account).map fun rating => (rating, hall.send (.select account))

/-- Stores the rating of an account. -/
def saveRating (account : String) (rating : Int) : Act Unit :=
  Call.ratingSave.writing fun hall =>
    (hall.stores.saveRating account rating).map fun stores =>
      ((), Hall.send { hall with stores } (.upsert account rating))

/-! ### The ledger -/

/-- The balance of an account. -/
def balance (account : String) : Act Int :=
  Call.balanceGet.reading fun hall => .ok (hall.ledger.balance account)

/-- Adds tokens to an account. -/
def deposit (account : String) (amount : Int) : Act Unit :=
  Call.deposit.writing fun hall =>
    (hall.ledger.deposit account amount).map fun ledger => ((), { hall with ledger })

/-- The log after a transfer; a transfer of nothing is not worth a line. -/
def transferLog (source dest : String) (amount : Int) : List LogRecord :=
  if amount = 0 then [] else [⟨.transferred amount dest, source⟩]

/-- Moves tokens from one account to another. -/
def transfer (source dest : String) (amount : Int) (keepAlive : Bool) : Act Unit :=
  Call.transfer.writing fun hall =>
    (hall.ledger.transfer source dest amount keepAlive).map fun ledger =>
      ((), { hall with ledger, log := hall.log ++ transferLog source dest amount })

/-! ### The event sink -/

/-- Publishes an event: it is kept and written to the log, unless the rules have it lost. -/
def emit (rules : Rules) (event : Event) : Act Unit :=
  Call.emit.writing fun hall =>
    .ok ((), if rules.keepsEvents then
      { hall with
        events := hall.events ++ [event]
        log := hall.log ++ [⟨.published event, event.account?.getD systemUser⟩] }
    else hall)

/-- Publishes an event, or notes that this failed; the work that the event is about is done, so
it does not fail for that. -/
def publish (rules : Rules) (event : Event) : Act Unit :=
  (emit rules event).rescue fun fault => note (.unpublished event.kind fault)

end Act

end QuizHall
