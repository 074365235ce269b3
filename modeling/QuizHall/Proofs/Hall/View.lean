import QuizHall.Hall.Service
import QuizHall.Proofs.Store.Holds

/-!
# Views of a Hall

A view is what can be told about a hall from outside: the contents of its stores wherever they are
kept, its ledger, its clock, its events and its traces. What is left out is where the contents are
kept and which statements were sent there.

`Act.Yields` is the judgment that all facts about runs are built from. An operation **yields** an
outcome and a view from a view if every hall that shows the view before gives that outcome and
shows the view after, in whatever place it keeps its stores. The rules below follow the way an
operation is put together, and end in one rule for each call to a service. Whoever has derived what
an operation yields has shown at once that it does not matter where a hall keeps its stores.

## Main results

* `Yields.bind`, `Yields.rescue`, `Yields.locked`: operations that are made of others.
* `Yields.createQuiz`, `Yields.appendBucket`, …: the calls to the services.
-/

namespace QuizHall

/-- The events of a list that are kept: all of them or none. -/
def Rules.kept (rules : Rules) (events : List Event) : List Event :=
  if rules.keepsEvents then events else []

/-- Under rules that keep events all of them are kept. -/
theorem Rules.kept_eq {rules : Rules} (hkeeps : rules.keepsEvents = true) (events : List Event) :
    rules.kept events = events :=
  if_pos hkeeps

/-- What is kept was published. -/
theorem Rules.mem_of_mem_kept {rules : Rules} {events : List Event} {event : Event}
    (h : event ∈ rules.kept events) : event ∈ events := by
  rw [kept] at h
  split at h
  · exact h
  · cases h

/-- What can be told about a hall from outside. -/
structure View where
  /-- What the stores hold. -/
  contents : Contents
  /-- The balances of all accounts. -/
  ledger : Ledger
  /-- The current tick. -/
  clock : Int
  /-- The events that were published and kept, the oldest first. -/
  events : List Event := []
  /-- The records that were written to the log, the oldest first. -/
  log : List LogRecord := []
  /-- The waits of the loop over the ticks, the latest first. -/
  naps : List Nap := []

/-- A hall **shows** a view in a place if its stores hold the contents there, the numbers in them
are in range, everything else is as in the view, and every call is in order. -/
structure Hall.Shows (hall : Hall) (p : Places) (v : View) : Prop where
  /-- The contents are in the stores. -/
  stores : hall.stores.Holds p v.contents
  /-- The numbers in the contents are in range. -/
  inRange : v.contents.InRange
  /-- The balances are those of the view. -/
  ledger : hall.ledger = v.ledger
  /-- The tick is that of the view. -/
  clock : hall.clock = v.clock
  /-- The events are those of the view. -/
  events : hall.events = v.events
  /-- The log is that of the view. -/
  log : hall.log = v.log
  /-- The waits are those of the view. -/
  naps : hall.naps = v.naps
  /-- No call is out of order. -/
  inOrder : ∀ call, hall.outages.find? call = none

namespace Hall.Shows

variable {hall : Hall} {p : Places} {v : View}

/-- A change of the stores is a change of the contents. -/
theorem withStores {stores : Stores} {c : Contents} (h : hall.Shows p v)
    (hstores : stores.Holds p c) (hrange : c.InRange) :
    Shows { hall with stores } p { v with contents := c } :=
  ⟨hstores, hrange, h.ledger, h.clock, h.events, h.log, h.naps, h.inOrder⟩

/-- Nobody sees what statements were sent. -/
theorem send (h : hall.Shows p v) (statement : Statement) : (hall.send statement).Shows p v := by
  rw [Hall.send]
  cases hall.stores.ratings with
  | mysql table =>
      exact ⟨h.stores, h.inRange, h.ledger, h.clock, h.events, h.log, h.naps, h.inOrder⟩
  | memory ratings => exact h
  | redis => exact h

end Hall.Shows

namespace Act

variable {α β : Type}

/-- From a view an operation **yields** an outcome and another view if it does so in every hall
that shows the view, whatever the place. -/
def Yields (act : Act α) (v : View) (outcome : Except Fault α) (v' : View) : Prop :=
  ∀ p hall, hall.Shows p v → ∃ hall', act.run hall = (outcome, hall') ∧ hall'.Shows p v'

namespace Yields

variable {v v' v'' : View}

/-- Only views with their numbers in range are shown by any hall. -/
theorem of_inRange {act : Act α} {outcome : Except Fault α}
    (h : v.contents.InRange → act.Yields v outcome v') : act.Yields v outcome v' :=
  fun p hall hshows => h hshows.inRange p hall hshows

/-- What an operation yields is its outcome in every hall that shows the view. -/
theorem outcome_eq {act : Act α} {outcome : Except Fault α} {hall : Hall} {p : Places}
    (h : act.Yields v outcome v') (hshows : hall.Shows p v) : (act.run hall).1 = outcome := by
  obtain ⟨hall', hrun, -⟩ := h p hall hshows
  rw [hrun]

/-! ### Operations that are made of others -/

/-- An answer is given at once. -/
theorem answer (a : α) (v : View) : (pure a : Act α).Yields v (.ok a) v :=
  fun _ hall hshows => ⟨hall, rfl, hshows⟩

/-- A fault is raised at once. -/
theorem fail (e : Fault) (v : View) : (throw e : Act α).Yields v (.error e) v :=
  fun _ hall hshows => ⟨hall, rfl, hshows⟩

/-- What was decided before is given at once. -/
theorem ofExcept {x outcome : Except Fault α} (hx : x = outcome) (v : View) :
    (Act.ofExcept x).Yields v outcome v :=
  fun _ hall hshows => ⟨hall, by rw [run_ofExcept, hx], hshows⟩

/-- After an answer comes what follows it. -/
theorem bind {act : Act α} {next : α → Act β} {a : α} {outcome : Except Fault β}
    (h : act.Yields v (.ok a) v') (hnext : (next a).Yields v' outcome v'') :
    (act >>= next).Yields v outcome v'' := by
  intro p hall hshows
  obtain ⟨hall', hrun, hshows'⟩ := h p hall hshows
  obtain ⟨hall'', hrun', hshows''⟩ := hnext p hall' hshows'
  exact ⟨hall'', by rw [run_bind, hrun]; exact hrun', hshows''⟩

/-- After a fault comes nothing. -/
theorem bind_error {act : Act α} {next : α → Act β} {e : Fault}
    (h : act.Yields v (.error e) v') : (act >>= next).Yields v (.error e) v' := by
  intro p hall hshows
  obtain ⟨hall', hrun, hshows'⟩ := h p hall hshows
  exact ⟨hall', by rw [run_bind, hrun], hshows'⟩

/-- An answer can be worked on. -/
theorem map {act : Act α} {outcome : Except Fault α} (f : α → β)
    (h : act.Yields v outcome v') : (f <$> act).Yields v (outcome.map f) v' := by
  rw [map_eq_pure_bind]
  cases outcome with
  | ok a => exact h.bind (answer (f a) v')
  | error e => exact h.bind_error

/-- An answer needs no rescue. -/
theorem rescue {act : Act α} {handler : Fault → Act α} {a : α} (h : act.Yields v (.ok a) v') :
    (act.rescue handler).Yields v (.ok a) v' := by
  intro p hall hshows
  obtain ⟨hall', hrun, hshows'⟩ := h p hall hshows
  exact ⟨hall', by rw [run_rescue, hrun], hshows'⟩

/-- A fault is handled where it left the hall. -/
theorem rescue_error {act : Act α} {handler : Fault → Act α} {e : Fault}
    {outcome : Except Fault α} (h : act.Yields v (.error e) v')
    (hhandler : (handler e).Yields v' outcome v'') :
    (act.rescue handler).Yields v outcome v'' := by
  intro p hall hshows
  obtain ⟨hall', hrun, hshows'⟩ := h p hall hshows
  obtain ⟨hall'', hrun', hshows''⟩ := hhandler p hall' hshows'
  exact ⟨hall'', by rw [run_rescue, hrun]; exact hrun', hshows''⟩

/-- The lock changes nothing. -/
theorem locked {act : Act α} {outcome : Except Fault α} (h : act.Yields v outcome v') :
    act.locked.Yields v outcome v' := by
  intro p hall hshows
  obtain ⟨hall', hrun, hshows'⟩ := h p hall hshows
  exact ⟨hall', by rw [run_locked, hrun], hshows'⟩

/-- A condition that holds lets an operation go on. -/
theorem ensure {q : Prop} [Decidable q] (hq : q) (fault : Fault) (v : View) :
    (Act.ensure q fault).Yields v (.ok ()) v :=
  fun _ hall hshows => ⟨hall, by rw [run_ensure, if_pos hq], hshows⟩

/-- A condition that does not hold ends an operation. -/
theorem ensure_error {q : Prop} [Decidable q] (hq : ¬ q) (fault : Fault) (v : View) :
    (Act.ensure q fault).Yields v (.error fault) v :=
  fun _ hall hshows => ⟨hall, by rw [run_ensure, if_neg hq], hshows⟩

/-- What was found lets an operation go on. -/
theorem found {a? : Option α} {a : α} (ha : a? = some a) (fault : Fault) (v : View) :
    (Act.found fault a?).Yields v (.ok a) v :=
  fun _ hall hshows => ⟨hall, by rw [run_found, ha]; rfl, hshows⟩

/-- What was not found ends an operation. -/
theorem found_none {a? : Option α} (ha : a? = none) (fault : Fault) (v : View) :
    (Act.found fault a?).Yields v (.error fault) v :=
  fun _ hall hshows => ⟨hall, by rw [run_found, ha]; rfl, hshows⟩

/-- A notice is written to the log. -/
theorem note (notice : Notice) (user : String) (v : View) :
    (Act.note notice user).Yields v (.ok ()) { v with log := v.log ++ [⟨notice, user⟩] } := by
  intro p hall hshows
  refine ⟨_, run_note notice user hall, ⟨hshows.stores, hshows.inRange, hshows.ledger,
    hshows.clock, hshows.events, ?_, hshows.naps, hshows.inOrder⟩⟩
  rw [hshows.log]

/-- The tick is that of the view. -/
theorem clock (next : Int → Act β) {outcome : Except Fault β}
    (h : (next v.clock).Yields v outcome v') :
    (get >>= fun hall : Hall => next hall.clock).Yields v outcome v' := by
  intro p hall hshows
  obtain ⟨hall', hrun, hshows'⟩ := h p hall hshows
  refine ⟨hall', ?_, hshows'⟩
  rw [run_bind, run_get]
  simp only [hshows.clock]
  exact hrun

/-! ### The shapes of calls -/

/-- A call that changes the hall. -/
theorem writing {call : Call} {f : Hall → Except Fault (α × Hall)} {a : α}
    (h : ∀ p hall, hall.Shows p v → ∃ hall', f hall = .ok (a, hall') ∧ hall'.Shows p v') :
    (call.writing f).Yields v (.ok a) v' := by
  intro p hall hshows
  obtain ⟨hall', hf, hshows'⟩ := h p hall hshows
  exact ⟨hall', by rw [Call.run_writing (hshows.inOrder call), hf], hshows'⟩

/-- A call that fails. -/
theorem writing_error {call : Call} {f : Hall → Except Fault (α × Hall)} {e : Fault}
    (h : ∀ p hall, hall.Shows p v → f hall = .error e) :
    (call.writing f).Yields v (.error e) v := by
  intro p hall hshows
  exact ⟨hall, by rw [Call.run_writing (hshows.inOrder call), h p hall hshows], hshows⟩

/-- A call that changes nothing. -/
theorem reading {call : Call} {f : Hall → Except Fault α} {a : α}
    (h : ∀ p hall, hall.Shows p v → f hall = .ok a) : (call.reading f).Yields v (.ok a) v :=
  writing fun p hall hshows => ⟨hall, by rw [h p hall hshows]; rfl, hshows⟩

/-- A call that changes the stores. -/
theorem storing {call : Call} {f : Stores → Except Fault Stores} {c : Contents}
    (hrange : v.contents.InRange → c.InRange)
    (h : ∀ p s, s.Holds p v.contents → ∃ s', f s = .ok s' ∧ s'.Holds p c) :
    (call.storing f).Yields v (.ok ()) { v with contents := c } := by
  refine writing fun p hall hshows => ?_
  obtain ⟨s', hf, hs'⟩ := h p hall.stores hshows.stores
  exact ⟨_, by rw [hf]; rfl, hshows.withStores hs' (hrange hshows.inRange)⟩

/-! ### Quizzes -/

/-- The quiz of an id is the one in the contents. -/
theorem quiz? (id : String) (v : View) :
    (Act.quiz? id).Yields v (.ok (v.contents.quizzes.find? id)) v :=
  reading fun _ _ hshows => hshows.stores.quiz? id

/-- The key of a quiz is the one in the contents. -/
theorem key? (id : String) (v : View) :
    (Act.key? id).Yields v (.ok (v.contents.keys.find? id)) v :=
  reading fun _ _ hshows => hshows.stores.key? id

/-- A quiz and its key are stored under an id that is free. -/
theorem createQuiz {id : String} (hquiz : v.contents.quizzes.find? id = none)
    (hkey : v.contents.keys.find? id = none) (quiz : Quiz) (key : Answers) :
    (Act.createQuiz id quiz key).Yields v (.ok ())
      { v with contents := v.contents.withQuiz id quiz key } :=
  storing (fun hc => hc.of_eq rfl rfl)
    fun _ _ hs => hs.createQuiz hquiz hkey quiz key

/-- A quiz is not stored under an id that is taken. -/
theorem createQuiz_taken {id : String}
    (taken : v.contents.quizzes.contains id ∨ v.contents.keys.contains id)
    (quiz : Quiz) (key : Answers) :
    (Act.createQuiz id quiz key).Yields v (.error (.idTaken id)) v := by
  refine writing_error fun p hall hshows => ?_
  simp only [hshows.stores.createQuiz_taken taken quiz key]
  rfl

/-- A quiz is removed with its key. -/
theorem deleteQuiz (id : String) (v : View) :
    (Act.deleteQuiz id).Yields v (.ok ()) { v with contents := v.contents.withoutQuiz id } :=
  storing (fun hc => hc.of_eq rfl rfl) fun _ _ hs => hs.deleteQuiz id

/-! ### Buckets and the counter -/

/-- The ids in a bucket are those in the contents. -/
theorem bucket (bucket : String) (v : View) :
    (Act.bucket bucket).Yields v (.ok (v.contents.bucket bucket)) v :=
  reading fun _ _ hshows => hshows.stores.bucket bucket

/-- An id is put at the end of a bucket. -/
theorem appendBucket (bucket id : String) (v : View) :
    (Act.appendBucket bucket id).Yields v (.ok ())
      { v with contents := v.contents.scheduling bucket id } :=
  storing (fun hc => hc.of_eq rfl rfl)
    fun _ _ hs => hs.appendBucket bucket id

/-- A bucket is removed, and its ids are given. -/
theorem drainBucket {bucket : String} {ids : List String} (hids : v.contents.bucket bucket = ids) :
    (Act.drainBucket bucket).Yields v (.ok ids)
      { v with contents := v.contents.withoutBucket bucket } := by
  refine bind (writing (a := .ok ids) fun p hall hshows => ?_) (ofExcept rfl _)
  obtain ⟨s', hdrain, hs'⟩ := hshows.stores.drainBucket bucket
  exact ⟨_, by rw [hdrain, hids]; rfl, hshows.withStores hs' (hshows.inRange.of_eq rfl rfl)⟩

/-- The counter is at the number in the contents. -/
theorem counter (v : View) : Act.counter.Yields v (.ok v.contents.counter) v :=
  reading fun _ _ hshows => hshows.stores.counter hshows.inRange

/-- The counter is moved to a greater number that an id can be derived from. -/
theorem putCounter {n : Int} (hlt : v.contents.counter < n) (hle : n ≤ (u64Max : Int)) :
    (Act.putCounter n).Yields v (.ok ()) { v with contents := v.contents.counting n } := by
  refine of_inRange fun hrange => ?_
  have hmin := hrange.counter_nonneg
  have hn : 0 ≤ n := by omega
  exact storing (fun hc => ⟨hn, hle, hc.rating⟩)
    fun _ _ hs => hs.putCounter hmin hlt

/-! ### Ratings -/

/-- The rating of an account is the one in the contents. -/
theorem rating (account : String) (v : View) :
    (Act.rating account).Yields v (.ok (v.contents.rating account)) v := by
  refine writing fun p hall hshows => ?_
  refine ⟨hall.send (.select account), ?_, ?_⟩
  · rw [hshows.stores.rating hshows.inRange account]
    rfl
  · exact hshows.send (.select account)

/-- The rating of an account is stored, if it is in range. -/
theorem saveRating {rating : Int}
    (hrating : v.contents.InRange → 0 ≤ rating ∧ rating ≤ (maxScore : Int)) (account : String) :
    (Act.saveRating account rating).Yields v (.ok ())
      { v with contents := v.contents.withRating account rating } := by
  refine writing fun p hall hshows => ?_
  obtain ⟨s', hsave, hs'⟩ := hshows.stores.saveRating account rating
  refine ⟨Hall.send { hall with stores := s' } (.upsert account rating), by rw [hsave]; rfl, ?_⟩
  exact (hshows.withStores hs' (hshows.inRange.withRating (hrating hshows.inRange) account)).send _

/-! ### The ledger and the event sink -/

/-- The balance of an account is the one in the ledger. -/
theorem balance (account : String) (v : View) :
    (Act.balance account).Yields v (.ok (v.ledger.balance account)) v :=
  reading fun _ _ hshows => by rw [hshows.ledger]

/-- Tokens are moved from one account to another. -/
theorem transfer {source dest : String} {amount : Int} {keepAlive : Bool} {ledger : Ledger}
    (h : v.ledger.transfer source dest amount keepAlive = .ok ledger) :
    (Act.transfer source dest amount keepAlive).Yields v (.ok ())
      { v with ledger, log := v.log ++ transferLog source dest amount } := by
  refine writing fun p hall hshows => ?_
  rw [← hshows.ledger] at h
  refine ⟨{ hall with ledger, log := hall.log ++ transferLog source dest amount }, ?_, ?_⟩
  · rw [h]
    rfl
  · refine ⟨hshows.stores, hshows.inRange, rfl, hshows.clock, hshows.events, ?_, hshows.naps,
      hshows.inOrder⟩
    rw [hshows.log]

/-- A transfer can be refused. -/
theorem transfer_error {source dest : String} {amount : Int} {keepAlive : Bool} {e : Fault}
    (h : v.ledger.transfer source dest amount keepAlive = .error e) :
    (Act.transfer source dest amount keepAlive).Yields v (.error e) v := by
  refine writing_error fun p hall hshows => ?_
  rw [hshows.ledger, h]
  rfl

/-- Publishing an event never fails. The event is kept, or lost without a trace. -/
theorem publish (rules : Rules) (event : Event) (v : View) :
    ∃ log, (Act.publish rules event).Yields v (.ok ())
      { v with events := v.events ++ rules.kept [event], log } := by
  cases hkeeps : rules.keepsEvents with
  | true =>
      refine ⟨v.log ++ [⟨.published event, event.account?.getD systemUser⟩], rescue ?_⟩
      refine writing fun p hall hshows => ?_
      refine ⟨_, rfl, ?_⟩
      simp only [hkeeps, if_true, Rules.kept]
      refine ⟨hshows.stores, hshows.inRange, hshows.ledger, hshows.clock, ?_, ?_, hshows.naps,
        hshows.inOrder⟩
      · rw [hshows.events]
      · rw [hshows.log]
  | false =>
      refine ⟨v.log, rescue ?_⟩
      refine writing fun p hall hshows => ?_
      refine ⟨hall, ?_, ?_⟩
      · simp only [hkeeps, Bool.false_eq_true, if_false]
      · simp only [hkeeps, Bool.false_eq_true, if_false, Rules.kept, List.append_nil]
        exact hshows

end Yields

end Act

end QuizHall
