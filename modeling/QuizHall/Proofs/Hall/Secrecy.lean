import QuizHall.Proofs.Hall.Ending
import QuizHall.Proofs.Hall.History
import QuizHall.Proofs.Store.Twins

/-!
# Keys Stay Secret

Two halls that differ in nothing but the keys of their quizzes answer alike. Every request has the
same outcome in both, down to the wording of a fault, and leaves the same events, log, balances and
ratings, and halls that again differ in nothing but keys. The one exception is what an attempt is
there for: its score tells how many answers agree with the key, so the submission has to have the
same score in both.

Operations are compared by rules that follow the way in which they are put together. All of them ask
that both operations do the same step by step, except for those around a key: it is looked up by
nothing but an attempt, where only the score is taken from it, and stored by nothing but a creation,
where only its check is.

## Main definitions

* `Hall.Twins`: halls that differ in nothing but keys.
* `Act.AlikeFrom`, `Act.Alike`: operations that do the same to such halls.
* `Request.Alike`, `Request.ScoresAlike`, `Hall.RunsAlike`: the requests and runs that are compared.

## Main results

* `Alike.create`, `AlikeOver.attempt`, `Alike.delete`, `Alike.onTick`: the operations of a hall.
* `keys_stay_secret`: requests are answered alike, one by one and in every run.
-/

namespace QuizHall

variable {α β : Type}

/-- Halls are **twins** if they differ in nothing but the keys of their quizzes. -/
structure Hall.Twins (h₁ h₂ : Hall) : Prop where
  /-- The stores differ in nothing but keys. -/
  stores : h₁.stores.Twins h₂.stores
  /-- All balances are the same. -/
  ledger : h₁.ledger = h₂.ledger
  /-- The tick is the same. -/
  clock : h₁.clock = h₂.clock
  /-- The same events were published. -/
  events : h₁.events = h₂.events
  /-- The same records were written to the log. -/
  log : h₁.log = h₂.log
  /-- The same statements were sent. -/
  statements : h₁.statements = h₂.statements
  /-- The waits for ticks were the same. -/
  naps : h₁.naps = h₂.naps
  /-- The same calls are out of order. -/
  outages : h₁.outages = h₂.outages

/-- In two stores the key of a quiz gives a submission the same **score**, if both have it. -/
def Stores.ScoresAlike (rules : Rules) (sequence : Int) (submission : Answers) (s₁ s₂ : Stores) :
    Prop :=
  ∀ id key₁ key₂, rules.derive sequence = .ok id → s₁.key? id = .ok (some key₁) →
    s₂.key? id = .ok (some key₂) → submission.score key₁ = submission.score key₂

namespace Hall.Twins

variable {h₁ h₂ : Hall}

theorem refl (hall : Hall) : hall.Twins hall :=
  ⟨.refl hall.stores, rfl, rfl, rfl, rfl, rfl, rfl, rfl⟩

/-- Twins stay twins if their stores do. -/
theorem withStores (h : h₁.Twins h₂) {s₁ s₂ : Stores} (hs : s₁.Twins s₂) :
    Twins { h₁ with stores := s₁ } { h₂ with stores := s₂ } :=
  ⟨hs, h.ledger, h.clock, h.events, h.log, h.statements, h.naps, h.outages⟩

/-- The same can be written to the log of both. -/
theorem withLog (h : h₁.Twins h₂) (log : List LogRecord) : Twins { h₁ with log } { h₂ with log } :=
  ⟨h.stores, h.ledger, h.clock, h.events, rfl, h.statements, h.naps, h.outages⟩

/-- The same statement is sent by both. -/
theorem send (h : h₁.Twins h₂) (statement : Statement) :
    (h₁.send statement).Twins (h₂.send statement) := by
  rw [Hall.send, Hall.send, h.stores.ratings]
  cases h₂.stores.ratings with
  | memory ratings => exact h
  | redis => exact h
  | mysql table =>
      exact ⟨h.stores, h.ledger, h.clock, h.events, h.log,
        congrArg (· ++ [statement]) h.statements, h.naps, h.outages⟩

end Hall.Twins

namespace Act

/-- From a pair of halls two operations are **alike** if they have the same outcome and leave twins
behind. -/
def AlikeFrom (h₁ h₂ : Hall) (act₁ act₂ : Act α) : Prop :=
  (act₁.run h₁).1 = (act₂.run h₂).1 ∧ (act₁.run h₁).2.Twins (act₂.run h₂).2

/-- Operations are **alike** if they are so from all twins. -/
def Alike (act₁ act₂ : Act α) : Prop :=
  ∀ h₁ h₂ : Hall, h₁.Twins h₂ → AlikeFrom h₁ h₂ act₁ act₂

/-! ### Operations that are made of others -/

namespace AlikeFrom

variable {h₁ h₂ : Hall} {act₁ act₂ : Act α}

/-- What follows begins in the twins that are left behind. -/
theorem follow {next₁ next₂ : Except Fault α → Act β} (h : AlikeFrom h₁ h₂ act₁ act₂)
    (hnext : ∀ outcome, (act₁.run h₁).2.Twins (act₂.run h₂).2 →
      AlikeFrom (act₁.run h₁).2 (act₂.run h₂).2 (next₁ outcome) (next₂ outcome)) :
    AlikeFrom h₁ h₂ (act₁.follow next₁) (act₂.follow next₂) := by
  obtain ⟨houtcome, hlast⟩ := h
  rw [AlikeFrom, run_follow, run_follow, houtcome]
  exact hnext _ hlast

/-- One operation after another. -/
theorem bind {next₁ next₂ : α → Act β} (h : AlikeFrom h₁ h₂ act₁ act₂)
    (hnext : ∀ a, (act₁.run h₁).2.Twins (act₂.run h₂).2 →
      AlikeFrom (act₁.run h₁).2 (act₂.run h₂).2 (next₁ a) (next₂ a)) :
    AlikeFrom h₁ h₂ (act₁ >>= next₁) (act₂ >>= next₂) := by
  refine h.follow fun outcome hlast => ?_
  cases outcome with
  | ok a => exact hnext a hlast
  | error e => exact ⟨rfl, hlast⟩

/-- The same is made of both answers. -/
theorem map (h : AlikeFrom h₁ h₂ act₁ act₂) (f : α → β) :
    AlikeFrom h₁ h₂ (f <$> act₁) (f <$> act₂) :=
  h.bind fun _ hlast => ⟨rfl, hlast⟩

/-- The lock changes nothing. -/
theorem locked (h : AlikeFrom h₁ h₂ act₁ act₂) : AlikeFrom h₁ h₂ act₁.locked act₂.locked := by
  rw [AlikeFrom, run_locked, run_locked]
  exact h

end AlikeFrom

namespace Alike

variable {act₁ act₂ : Act α}

/-- The same is answered. -/
theorem answer (a : α) : Alike (pure a) (pure a) := fun _ _ ht => ⟨rfl, ht⟩

/-- The same fault is raised. -/
theorem fail (e : Fault) : Alike (throw e : Act α) (throw e) := fun _ _ ht => ⟨rfl, ht⟩

/-- One operation after another. -/
theorem bind {next₁ next₂ : α → Act β} (h : Alike act₁ act₂)
    (hnext : ∀ a, Alike (next₁ a) (next₂ a)) : Alike (act₁ >>= next₁) (act₂ >>= next₂) :=
  fun h₁ h₂ ht => (h h₁ h₂ ht).bind fun a hlast => hnext a _ _ hlast

/-- An operation with somebody to handle its faults. -/
theorem rescue {handler₁ handler₂ : Fault → Act α} (h : Alike act₁ act₂)
    (hhandler : ∀ e, Alike (handler₁ e) (handler₂ e)) :
    Alike (act₁.rescue handler₁) (act₂.rescue handler₂) := by
  refine fun h₁ h₂ ht => (h h₁ h₂ ht).follow fun outcome hlast => ?_
  cases outcome with
  | ok a => exact ⟨rfl, hlast⟩
  | error e => exact hhandler e _ _ hlast

/-- The lock changes nothing. -/
theorem locked (h : Alike act₁ act₂) : Alike act₁.locked act₂.locked :=
  fun h₁ h₂ ht => (h h₁ h₂ ht).locked

/-- What was decided before is the same. -/
theorem ofExcept (x : Except Fault α) : Alike (Act.ofExcept x) (Act.ofExcept x) := by
  cases x with
  | ok a => exact answer a
  | error e => exact fail e

/-- The same condition decides between two ways to go on. -/
theorem ite {p : Prop} [Decidable p] {act₁' act₂' : Act α} (hpos : Alike act₁ act₂)
    (hneg : Alike act₁' act₂') : Alike (if p then act₁ else act₁') (if p then act₂ else act₂') := by
  split
  · exact hpos
  · exact hneg

/-- The same condition lets both go on. -/
theorem ensure (p : Prop) [Decidable p] (fault : Fault) :
    Alike (Act.ensure p fault) (Act.ensure p fault) :=
  ite (answer ()) (fail fault)

/-- The same was found. -/
theorem found (fault : Fault) (a? : Option α) :
    Alike (Act.found fault a?) (Act.found fault a?) := by
  cases a? with
  | none => exact fail fault
  | some a => exact answer a

/-- What is looked at in both halls is the same, apart from keys. -/
theorem look {next₁ next₂ : Hall → Act α}
    (h : ∀ h₁ h₂ : Hall, h₁.Twins h₂ → Alike (next₁ h₁) (next₂ h₂)) :
    Alike (get >>= next₁) (get >>= next₂) :=
  fun h₁ h₂ ht => h h₁ h₂ ht h₁ h₂ ht

/-- A change of the hall that leaves twins behind. -/
theorem modify {f : Hall → Hall} (hf : ∀ h₁ h₂ : Hall, h₁.Twins h₂ → (f h₁).Twins (f h₂)) :
    Alike (MonadStateOf.modifyGet fun hall => ((), f hall))
      (MonadStateOf.modifyGet fun hall => ((), f hall)) :=
  fun h₁ h₂ ht => ⟨rfl, hf h₁ h₂ ht⟩

/-- The same notice is written to both logs. -/
theorem note (notice : Notice) (user : String) :
    Alike (Act.note notice user) (Act.note notice user) := by
  refine modify fun h₁ h₂ ht => ?_
  rw [ht.log]
  exact ht.withLog _

/-! ### The shapes of calls -/

/-- A call that changes the halls and leaves twins behind. -/
theorem writing {call : Call} {f₁ f₂ : Hall → Except Fault (α × Hall)}
    (hf : ∀ h₁ h₂ : Hall, h₁.Twins h₂ →
      Corresponds (fun p₁ p₂ => p₁.1 = p₂.1 ∧ p₁.2.Twins p₂.2) (f₁ h₁) (f₂ h₂)) :
    Alike (call.writing f₁) (call.writing f₂) := by
  intro h₁ h₂ ht
  have houtages : h₁.outages.find? call = h₂.outages.find? call := by rw [ht.outages]
  cases hout : h₂.outages.find? call with
  | some kind =>
      rw [AlikeFrom, Call.run_writing_of_outage (houtages.trans hout),
        Call.run_writing_of_outage hout]
      exact ⟨rfl, ht⟩
  | none =>
      rw [AlikeFrom, Call.run_writing (houtages.trans hout), Call.run_writing hout]
      generalize f₁ h₁ = x₁, f₂ h₂ = x₂, hf h₁ h₂ ht = hx
      cases hx with
      | @ok end₁ end₂ hend =>
          obtain ⟨a₁, last₁⟩ := end₁
          obtain ⟨a₂, last₂⟩ := end₂
          exact ⟨congrArg Except.ok hend.1, hend.2⟩
      | error e => exact ⟨rfl, ht⟩

/-- A call whose work is first to find something out, which settles all the rest. -/
theorem mapped {call : Call} {r : β → β → Prop} {f₁ f₂ : Hall → Except Fault β}
    {g₁ g₂ : Hall → β → α × Hall}
    (hf : ∀ h₁ h₂ : Hall, h₁.Twins h₂ → Corresponds r (f₁ h₁) (f₂ h₂))
    (hg : ∀ (h₁ h₂ : Hall) b₁ b₂, h₁.Twins h₂ → r b₁ b₂ →
      (g₁ h₁ b₁).1 = (g₂ h₂ b₂).1 ∧ (g₁ h₁ b₁).2.Twins (g₂ h₂ b₂).2) :
    Alike (call.writing fun hall => (f₁ hall).map (g₁ hall))
      (call.writing fun hall => (f₂ hall).map (g₂ hall)) :=
  writing fun h₁ h₂ ht => (hf h₁ h₂ ht).map fun b₁ b₂ hb => hg h₁ h₂ b₁ b₂ ht hb

/-- A call that reads the same from both halls. -/
theorem reading {call : Call} {f : Hall → Except Fault α}
    (hf : ∀ h₁ h₂ : Hall, h₁.Twins h₂ → f h₁ = f h₂) :
    Alike (call.reading f) (call.reading f) := by
  refine mapped (r := Eq) (fun h₁ h₂ ht => ?_) fun h₁ h₂ a₁ a₂ ht ha => ⟨ha, ht⟩
  exact .of_eq (hf h₁ h₂ ht) fun _ => rfl

/-- A call that changes the stores and leaves twins behind. -/
theorem storing {call : Call} {f₁ f₂ : Stores → Except Fault Stores}
    (hf : ∀ s₁ s₂ : Stores, s₁.Twins s₂ → Corresponds Stores.Twins (f₁ s₁) (f₂ s₂)) :
    Alike (call.storing f₁) (call.storing f₂) :=
  mapped (fun h₁ h₂ ht => hf h₁.stores h₂.stores ht.stores)
    fun _ _ _ _ ht hs => ⟨rfl, ht.withStores hs⟩

/-! ### Calls -/

/-- The same quiz is found. -/
theorem quiz? (id : String) : Alike (Act.quiz? id) (Act.quiz? id) :=
  reading fun _ _ ht => ht.stores.quiz?_eq id

/-- A quiz is stored, perhaps with different keys. -/
theorem createQuiz (id : String) (quiz : Quiz) (key₁ key₂ : Answers) :
    Alike (Act.createQuiz id quiz key₁) (Act.createQuiz id quiz key₂) :=
  storing fun _ _ hs => hs.createQuiz id quiz key₁ key₂

/-- A quiz is removed. -/
theorem deleteQuiz (id : String) : Alike (Act.deleteQuiz id) (Act.deleteQuiz id) :=
  storing fun _ _ hs => hs.deleteQuiz id

/-- The same ids are in a bucket. -/
theorem bucket (bucket : String) : Alike (Act.bucket bucket) (Act.bucket bucket) :=
  reading fun _ _ ht => ht.stores.bucket_eq bucket

/-- An id is appended to a bucket. -/
theorem appendBucket (bucket id : String) :
    Alike (Act.appendBucket bucket id) (Act.appendBucket bucket id) :=
  storing fun _ _ hs => hs.appendBucket bucket id

/-- A bucket is emptied. -/
theorem drainBucket (bucket : String) : Alike (Act.drainBucket bucket) (Act.drainBucket bucket) :=
  (mapped (fun _ _ ht => ht.stores.drainBucket bucket)
    fun _ _ _ _ ht hdrained => ⟨hdrained.1, ht.withStores hdrained.2⟩).bind ofExcept

/-- The same counter is found. -/
theorem counter : Alike Act.counter Act.counter := reading fun _ _ ht => ht.stores.counter_eq

/-- The counter is moved. -/
theorem putCounter (n : Int) : Alike (Act.putCounter n) (Act.putCounter n) :=
  storing fun _ _ hs => hs.putCounter n

/-- The same rating is found. -/
theorem rating (account : String) : Alike (Act.rating account) (Act.rating account) := by
  refine mapped (r := Eq) (fun h₁ h₂ ht => ?_) fun h₁ h₂ n₁ n₂ ht hn => ⟨hn, ht.send _⟩
  exact .of_eq (ht.stores.rating_eq account) fun _ => rfl

/-- A rating is stored. -/
theorem saveRating (account : String) (n : Int) :
    Alike (Act.saveRating account n) (Act.saveRating account n) :=
  mapped (fun _ _ ht => ht.stores.saveRating account n)
    fun _ _ _ _ ht hs => ⟨rfl, (ht.withStores hs).send _⟩

/-- The same balance is found. -/
theorem balance (account : String) : Alike (Act.balance account) (Act.balance account) :=
  reading fun _ _ ht => by rw [ht.ledger]

/-- The same amount is moved. -/
theorem transfer (source dest : String) (amount : Int) (keepAlive : Bool) :
    Alike (Act.transfer source dest amount keepAlive)
      (Act.transfer source dest amount keepAlive) := by
  refine mapped (r := Eq) (fun h₁ h₂ ht => ?_) fun h₁ h₂ ledger₁ ledger₂ ht hledger => ⟨rfl, ?_⟩
  · exact .of_eq (by rw [ht.ledger]) fun _ => rfl
  · exact ⟨ht.stores, hledger, ht.clock, ht.events, congrArg (· ++ _) ht.log, ht.statements,
      ht.naps, ht.outages⟩

/-- The same event is published. -/
theorem publish (rules : Rules) (event : Event) :
    Alike (Act.publish rules event) (Act.publish rules event) := by
  refine rescue (writing fun h₁ h₂ ht => .ok ⟨rfl, ?_⟩) fun e => note _ _
  cases rules.keepsEvents with
  | true =>
      exact ⟨ht.stores, ht.ledger, ht.clock, congrArg (· ++ [event]) ht.events,
        congrArg (· ++ _) ht.log, ht.statements, ht.naps, ht.outages⟩
  | false => exact ht

/-! ### Creations -/

/-- A quiz is placed, perhaps with different keys. -/
theorem place (sequence : Int) (id : String) (quiz : Quiz) (key₁ key₂ : Answers) :
    Alike (Act.place sequence id quiz key₁) (Act.place sequence id quiz key₂) :=
  (createQuiz id quiz key₁ key₂).rescue fun e =>
    ite ((note _ _).bind fun _ => fail e) (fail e)

/-- A new quiz is scheduled and counted. -/
theorem book (rules : Rules) (sequence : Int) (id : String) :
    Alike (Act.book rules sequence id) (Act.book rules sequence id) := by
  refine look fun h₁ h₂ ht => ?_
  rw [ht.clock]
  refine bind ?_ fun due => (putCounter sequence).bind fun _ => answer due
  exact (ofExcept _).bind fun bucket => (appendBucket bucket id).bind fun _ =>
    (note _ _).bind fun _ => answer _

/-- A quiz is entered, perhaps with different keys. -/
theorem enter (rules : Rules) (quiz : Quiz) (key₁ key₂ : Answers) :
    Alike (Act.enter rules quiz key₁) (Act.enter rules quiz key₂) := by
  refine counter.bind fun n => (ofExcept _).bind fun id => ?_
  refine (place (n + 1) id quiz key₁ key₂).bind fun _ => ?_
  refine ((book rules (n + 1) id).rescue fun e => ?_).bind fun due => ?_
  · exact (deleteQuiz id).bind fun _ => fail e
  · exact (note _ _).bind fun _ => (publish rules _).bind fun _ => answer (n + 1)

/-- **Creations are alike** if both keys pass the check of their answers, or neither does. -/
theorem create (rules : Rules) (ctx : CallContext) (questions : List Question)
    {key₁ key₂ : Answers} (gate : Json.Value)
    (hkeys : key₁.areOptions rules.checksAllAnswers = key₂.areOptions rules.checksAllAnswers) :
    Alike (Act.create rules ctx questions key₁ gate)
      (Act.create rules ctx questions key₂ gate) := by
  have hquiz : rules.newQuiz ctx questions key₁ gate = rules.newQuiz ctx questions key₂ gate := by
    simp only [Rules.newQuiz, hkeys]
  rw [Act.create, Act.create, hquiz]
  exact (ofExcept _).bind fun quiz => (enter rules quiz key₁ key₂).locked

/-! ### Payments and ratings -/

/-- A payment is made or refused. -/
theorem pay (payer owner : String) (amount : Int) :
    Alike (Act.pay payer owner amount) (Act.pay payer owner amount) := by
  rw [Act.pay]
  split
  · exact answer ()
  · exact (balance payer).bind fun free => (ensure _ _).bind fun _ =>
      (transfer payer owner amount true).rescue fun e => fail _

/-- The rating of an account is blended with a score. -/
theorem updateRating (account : String) (score prior : Int) :
    Alike (Act.updateRating account score (some prior))
      (Act.updateRating account score (some prior)) :=
  (ofExcept _).bind fun _ => (answer prior).bind fun _ => (saveRating account _).bind fun _ =>
    (note _ _).bind fun _ => answer _

end Alike

/-! ### Attempts -/

/-- From twins with these stores two operations are alike. -/
def AlikeOver (s₁ s₂ : Stores) (act₁ act₂ : Act α) : Prop :=
  ∀ h₁ h₂ : Hall, h₁.Twins h₂ → h₁.stores = s₁ → h₂.stores = s₂ → AlikeFrom h₁ h₂ act₁ act₂

namespace AlikeOver

variable {s₁ s₂ : Stores}

/-- What was decided before is the same. -/
theorem ofExcept {x : Except Fault α} {next₁ next₂ : α → Act β}
    (hnext : ∀ a, x = .ok a → AlikeOver s₁ s₂ (next₁ a) (next₂ a)) :
    AlikeOver s₁ s₂ (Act.ofExcept x >>= next₁) (Act.ofExcept x >>= next₂) := by
  cases x with
  | ok a => exact hnext a rfl
  | error e => exact fun _ _ ht _ _ => ⟨rfl, ht⟩

/-- The lock changes nothing. -/
theorem locked {act₁ act₂ : Act α} (h : AlikeOver s₁ s₂ act₁ act₂) :
    AlikeOver s₁ s₂ act₁.locked act₂.locked :=
  fun h₁ h₂ ht hs₁ hs₂ => (h h₁ h₂ ht hs₁ hs₂).locked

/-- After an operation that leaves the stores alone they are still known. -/
theorem bind {act : Act α} {next₁ next₂ : α → Act β} (h : Alike act act)
    (hleaves : ∀ hall, act.Ends hall fun _ last => last.stores = hall.stores)
    (hnext : ∀ a, AlikeOver s₁ s₂ (next₁ a) (next₂ a)) :
    AlikeOver s₁ s₂ (act >>= next₁) (act >>= next₂) := by
  refine fun h₁ h₂ ht hs₁ hs₂ => (h h₁ h₂ ht).bind fun a hlast => ?_
  exact hnext a _ _ hlast ((hleaves h₁).trans hs₁) ((hleaves h₂).trans hs₂)

/-- **A key is looked up**, and only here can it make a difference. -/
theorem key (id : String) (fault : Fault) {next : Answers → Act α}
    (hnext : ∀ key₁ key₂, s₁.key? id = .ok (some key₁) → s₂.key? id = .ok (some key₂) →
      Alike (next key₁) (next key₂)) :
    AlikeOver s₁ s₂ (Act.key? id >>= fun key? => Act.found fault key? >>= next)
      (Act.key? id >>= fun key? => Act.found fault key? >>= next) := by
  rintro h₁ h₂ ht rfl rfl
  have houtages : h₁.outages.find? .quizGetKey = h₂.outages.find? .quizGetKey := by
    rw [ht.outages]
  rw [AlikeFrom, run_bind, run_bind, Act.key?]
  cases hout : h₂.outages.find? .quizGetKey with
  | some kind =>
      rw [Call.reading, Call.run_writing_of_outage (houtages.trans hout),
        Call.run_writing_of_outage hout]
      exact ⟨rfl, ht⟩
  | none =>
      rw [Call.run_reading (houtages.trans hout), Call.run_reading hout]
      obtain ⟨e, hkey₁, hkey₂⟩ | ⟨hkey₁, hkey₂⟩ | ⟨key₁, key₂, hkey₁, hkey₂⟩ :=
        ht.stores.key?_cases id
      · rw [hkey₁, hkey₂]
        exact ⟨rfl, ht⟩
      · rw [hkey₁, hkey₂]
        exact ⟨rfl, ht⟩
      · rw [hkey₁, hkey₂]
        exact hnext key₁ key₂ hkey₁ hkey₂ h₁ h₂ ht

/-- A submission that has the same score by both keys is worked on alike. -/
theorem attemptBy {rules : Rules} {sequence : Int} {submission : Answers}
    (hscores : Stores.ScoresAlike rules sequence submission s₁ s₂) (sender : String) :
    AlikeOver s₁ s₂ (Act.attemptBy rules sender sequence submission)
      (Act.attemptBy rules sender sequence submission) := by
  refine ofExcept fun id hid => ?_
  refine bind (.quiz? id) (fun _ => .quiz? (fun _ => rfl) fun _ _ => rfl) fun quiz? => ?_
  refine bind (.found _ quiz?) (fun _ => .found (fun _ => rfl) fun _ _ => rfl) fun quiz => ?_
  refine bind (.ensure _ _) (fun _ => .ensure (fun _ => rfl) fun _ => rfl) fun _ => ?_
  refine bind (.rating sender) (fun _ => .rating (fun _ => rfl) fun _ _ _ => rfl) fun prior => ?_
  refine bind (.ensure _ _) (fun _ => .ensure (fun _ => rfl) fun _ => rfl) fun _ => ?_
  refine key id _ fun key₁ key₂ hkey₁ hkey₂ => ?_
  -- What follows depends on the score alone.
  rw [hscores id key₁ key₂ hid hkey₁ hkey₂]
  exact (Alike.pay _ _ _).bind fun _ => (Alike.updateRating _ _ _).bind fun _ =>
    (Alike.note _ _).bind fun _ => (Alike.publish rules _).bind fun _ => .answer _

/-- **Attempts are alike** if the submission has the same score by both keys. -/
theorem attempt {rules : Rules} {sequence : Int} {submission : Answers}
    (hscores : Stores.ScoresAlike rules sequence submission s₁ s₂) (ctx : CallContext) :
    AlikeOver s₁ s₂ (Act.attempt rules ctx sequence submission)
      (Act.attempt rules ctx sequence submission) :=
  ofExcept fun sender _ => (attemptBy hscores sender).locked

end AlikeOver

namespace Alike

/-! ### Deletions and ticks -/

/-- **Deletions are alike.** -/
theorem delete (rules : Rules) (ctx : CallContext) (sequence : Int) :
    Alike (Act.delete rules ctx sequence) (Act.delete rules ctx sequence) :=
  (ofExcept _).bind fun _ => locked ((ofExcept _).bind fun id => (quiz? id).bind fun _ =>
    (found _ _).bind fun _ => (ensure _ _).bind fun _ => (deleteQuiz id).bind fun _ => note _ _)

/-- The same quizzes are swept away. -/
theorem sweep (rules : Rules) (tick : Int) (ids : List String) :
    Alike (Act.sweep rules tick ids) (Act.sweep rules tick ids) := by
  induction ids with
  | nil => exact answer ()
  | cons id ids ih => exact (deleteQuiz id).bind fun _ => (publish rules _).bind fun _ => ih

/-- **Ticks are alike.** -/
theorem onTick (rules : Rules) (tick : Int) :
    Alike (Act.onTick rules tick) (Act.onTick rules tick) := by
  have hfire : Alike (rules.schedule.fire tick) (rules.schedule.fire tick) :=
    (ofExcept _).bind fun bucket => (drainBucket bucket).bind fun ids =>
      ite ((note _ _).bind fun _ => answer ids) (answer ids)
  exact locked (hfire.bind fun ids => (sweep rules tick ids).bind fun _ => answer ids)

/-- The same quiz is shown. -/
theorem getQuiz (rules : Rules) (sequence : Int) :
    Alike (Act.getQuiz rules sequence) (Act.getQuiz rules sequence) :=
  (ofExcept _).bind quiz?

/-- The same ids are pending. -/
theorem pending (s : Schedule) (tick : Int) : Alike (s.pending tick) (s.pending tick) :=
  (ofExcept _).bind bucket

/-- The clocks move on together. -/
theorem advance : Alike Act.advance Act.advance := fun _ _ ht =>
  ⟨congrArg (fun tick : Int => Except.ok (tick + 1)) ht.clock, ht.stores, ht.ledger,
    congrArg (· + 1) ht.clock, ht.events, ht.log, ht.statements, ht.naps, ht.outages⟩

/-- Steps are alike. -/
theorem step (rules : Rules) : Alike (Act.step rules) (Act.step rules) :=
  advance.bind fun tick => (onTick rules tick).bind fun _ =>
    ite ((note _ _).bind fun _ => answer tick) (answer tick)

/-- The same wait is noted. -/
theorem nap (seconds : Float) : Alike (Act.nap seconds) (Act.nap seconds) := by
  refine bind (modify fun h₁ h₂ ht => ?_) fun _ _ _ ht => ⟨rfl, ht⟩
  refine ⟨ht.stores, ht.ledger, ht.clock, ht.events, ht.log, ht.statements, ?_, ht.outages⟩
  rw [ht.clock, ht.naps]

/-- **Loops over ticks are alike.** -/
theorem loop (rules : Rules) (seconds : Float) (n : Nat) :
    Alike (Act.loop rules seconds n) (Act.loop rules seconds n) := by
  have hsteps : Alike (Act.steps rules seconds n) (Act.steps rules seconds n) := by
    induction n with
    | zero => exact answer ()
    | succ n ih => exact (nap seconds).bind fun _ => (step rules).bind fun _ => ih
  exact hsteps.rescue fun e => (note _ _).bind fun _ => fail e

end Alike

end Act

/-! ### Requests -/

/-- Requests are **alike** if they are the same, or ask for the same creation with keys that both
pass the check of their answers or both do not. -/
inductive Request.Alike (rules : Rules) : Request → Request → Prop
  /-- The same request. -/
  | same (request : Request) : Alike rules request request
  /-- The same creation, apart from the key. -/
  | create {ctx : CallContext} {questions : List Question} {key₁ key₂ : Answers}
      {gate : Json.Value}
      (h : key₁.areOptions rules.checksAllAnswers = key₂.areOptions rules.checksAllAnswers) :
      Alike rules (.create ctx questions key₁ gate) (.create ctx questions key₂ gate)

/-- In both halls a request has the same **score**, if it is an attempt and both have the key. -/
def Request.ScoresAlike (rules : Rules) (h₁ h₂ : Hall) : Request → Prop
  | attempt _ sequence submission =>
    Stores.ScoresAlike rules sequence submission h₁.stores h₂.stores
  | _ => True

namespace Hall

/-- Two runs are **alike** if request by request they ask for the same, up to keys, and no attempt
tells the keys apart by its score. -/
def RunsAlike (rules : Rules) (h₁ h₂ : Hall) : List (Request × Request) → Prop
  | [] => True
  | (request₁, request₂) :: rest =>
    request₁.Alike rules request₂ ∧ request₁.ScoresAlike rules h₁ h₂ ∧
      RunsAlike rules ((request₁.act rules).run h₁).2 ((request₂.act rules).run h₂).2 rest

variable {h₁ h₂ : Hall}

/-- One request is answered alike. -/
theorem Twins.answersAlike {rules : Rules} {request₁ request₂ : Request} (ht : h₁.Twins h₂)
    (halike : request₁.Alike rules request₂) (hscores : request₁.ScoresAlike rules h₁ h₂) :
    Act.AlikeFrom h₁ h₂ (request₁.act rules) (request₂.act rules) := by
  cases halike with
  | create h => exact (Act.Alike.create rules _ _ _ h h₁ h₂ ht).map Answer.number
  | same =>
      cases request₁ with
      | create ctx questions key gate =>
          exact (Act.Alike.create rules ctx questions gate rfl h₁ h₂ ht).map Answer.number
      | attempt ctx sequence submission =>
          exact (Act.AlikeOver.attempt hscores ctx h₁ h₂ ht rfl rfl).map
            fun score : Nat => Answer.number score
      | delete ctx sequence =>
          exact (Act.Alike.delete rules ctx sequence h₁ h₂ ht).map fun _ => Answer.done
      | tick now => exact (Act.Alike.onTick rules now h₁ h₂ ht).map Answer.ids
      | advance => exact (Act.Alike.advance h₁ h₂ ht).map Answer.number
      | step => exact (Act.Alike.step rules h₁ h₂ ht).map Answer.number
      | loop seconds n => exact (Act.Alike.loop rules seconds n h₁ h₂ ht).map fun _ => Answer.done
      | quiz sequence => exact (Act.Alike.getQuiz rules sequence h₁ h₂ ht).map Answer.quiz
      | rating account => exact (Act.Alike.rating account h₁ h₂ ht).map Answer.number
      | latest => exact (Act.Alike.counter h₁ h₂ ht).map Answer.number
      | pending due => exact (Act.Alike.pending rules.schedule due h₁ h₂ ht).map Answer.ids

/-- **Keys stay secret, except for the scores of attempts.** From halls that differ in nothing but
the keys of their quizzes, be they in memory or in a key space, whatever else they hold and
whichever calls are out of order, requests that are alike have the same outcome and leave such halls
behind, in which the same events were published. So do runs of any length, as long as no attempt has
one score here and another one there. -/
theorem keys_stay_secret (rules : Rules) (ht : h₁.Twins h₂) :
    (∀ request₁ request₂ : Request, request₁.Alike rules request₂ →
      request₁.ScoresAlike rules h₁ h₂ →
        Act.AlikeFrom h₁ h₂ (request₁.act rules) (request₂.act rules)) ∧
    ∀ requests : List (Request × Request), RunsAlike rules h₁ h₂ requests →
      (serve rules h₁ (requests.map Prod.fst)).1 = (serve rules h₂ (requests.map Prod.snd)).1 ∧
      (serve rules h₁ (requests.map Prod.fst)).2.Twins
        (serve rules h₂ (requests.map Prod.snd)).2 := by
  refine ⟨fun request₁ request₂ => ht.answersAlike, fun requests hruns => ?_⟩
  induction requests generalizing h₁ h₂ with
  | nil => exact ⟨rfl, ht⟩
  | cons pair rest ih =>
      obtain ⟨request₁, request₂⟩ := pair
      obtain ⟨halike, hscores, hrest⟩ := hruns
      obtain ⟨houtcome, hnext⟩ := ht.answersAlike halike hscores
      obtain ⟨houtcomes, hlast⟩ := ih hnext hrest
      rw [List.map_cons, List.map_cons, serve, serve]
      exact ⟨congrArg₂ List.cons houtcome houtcomes, hlast⟩

/-- A hall with a quiz. By its key the first option of every question is right, except for the last
question, whose answer is given. -/
def withLastAnswer (answer : Fin 256) : Hall :=
  (serve (Rules.ofSettings default asCharacters true)
    (ofSettings default { balances := Table.ofList [("guest", 100)] })
    [.create ⟨some "owner"⟩ (List.replicate 5 default) { firstOptions with answer5 := answer }
      (.int 0)]).2

/-- A guest attempts the quiz with a last answer that is no option. -/
def wrongLastAnswer : Request :=
  .attempt ⟨some "guest"⟩ 1 { firstOptions with answer5 := (default : Answers).answer5 }

/-- Two keys with different last answers are not told apart by a guest whose last answer is wrong by
either, though the attempt is scored. -/
theorem keys_stay_secret_of_last_answer :
    (withLastAnswer firstOptions.answer1).Twins (withLastAnswer (Fin.last 255)) ∧
    ((Act.getKey (Rules.ofSettings default asCharacters true) 1).run
        (withLastAnswer firstOptions.answer1)).1 ≠
      ((Act.getKey (Rules.ofSettings default asCharacters true) 1).run
        (withLastAnswer (Fin.last 255))).1 ∧
    ((wrongLastAnswer.act (Rules.ofSettings default asCharacters true)).run
        (withLastAnswer firstOptions.answer1)).1 = .ok (.number 4) ∧
    Act.AlikeFrom (withLastAnswer firstOptions.answer1) (withLastAnswer (Fin.last 255))
      (wrongLastAnswer.act (Rules.ofSettings default asCharacters true))
      (wrongLastAnswer.act (Rules.ofSettings default asCharacters true)) := by
  have hopened := (keys_stay_secret (Rules.ofSettings default asCharacters true)
    (.refl (ofSettings default { balances := Table.ofList [("guest", 100)] }))).2
    [(.create ⟨some "owner"⟩ (List.replicate 5 default)
        { firstOptions with answer5 := firstOptions.answer1 } (.int 0),
      .create ⟨some "owner"⟩ (List.replicate 5 default)
        { firstOptions with answer5 := Fin.last 255 } (.int 0))]
    ⟨.create rfl, trivial, trivial⟩
  refine ⟨hopened.2, by decide, rfl, ?_⟩
  refine (keys_stay_secret _ hopened.2).1 _ _ (.same _) ?_
  intro id key₁ key₂ hid hkey₁ hkey₂
  obtain rfl := Except.ok.inj hid
  obtain rfl := Option.some.inj (Except.ok.inj hkey₁)
  obtain rfl := Option.some.inj (Except.ok.inj hkey₂)
  rfl

end Hall

end QuizHall
