import QuizHall.Hall.Lifetime
import QuizHall.Proofs.Hall.Scoring
import QuizHall.Proofs.Store.Frame

/-!
# How an Operation Ends

`Act.Yields` speaks of halls whose stores hold well-formed contents and whose calls are all in
order. The judgment of this module makes no such assumption. An operation **ends** in a condition,
from a given hall, if the outcome and the hall that it leaves behind meet the condition, whatever is
in the stores and whichever calls are out of order.

There is one rule for every way in which operations are put together, one for every call, and one
for every step that the operations of a hall are made of. A rule asks what has to hold in each of
the cases that can occur. The case of a failing call comes with the hall as it was before the call,
because a call that fails has done nothing.

## Main results

* `Ends.bind`, `Ends.rescue`: operations that are made of others.
* `Ends.reading`, `Ends.storing`, `Ends.writing`: the shapes of calls.
* `Ends.pay`, `Ends.updateRating`, `Ends.place`, `Ends.book`: the steps of attempts and creations.
* `Ends.deleteBy`, `Ends.attemptBy_of_admits`, `Ends.enter_next`: deletions, attempts and creations.
-/

namespace QuizHall

/-- A hall **admits** an account to the quiz of a number if the quiz is there with its key, belongs
to somebody else, and asks for no better rating than the account has. -/
structure Hall.Admits (hall : Hall) (rules : Rules) (account : String) (sequence : Int)
    (quiz : Quiz) (key : Answers) (prior : Int) : Prop where
  /-- The quiz and its key are found under the id of the number. -/
  stored : ∃ id, rules.derive sequence = .ok id ∧ hall.stores.quiz? id = .ok (some quiz) ∧
    hall.stores.key? id = .ok (some key)
  /-- The account is not the owner. -/
  other : account ≠ quiz.owner
  /-- The rating of the account can be read. -/
  rating : hall.stores.rating account = .ok prior
  /-- The gate lets the account through. -/
  gate : Rating.required quiz.gate.val ≤ prior

/-- Sending a statement leaves nothing behind but the statement. -/
theorem Hall.exists_send (hall : Hall) (statement : Statement) :
    ∃ statements, hall.send statement = { hall with statements } := by
  rw [send]
  cases hall.stores.ratings with
  | mysql table => exact ⟨_, rfl⟩
  | memory ratings => exact ⟨hall.statements, rfl⟩
  | redis => exact ⟨hall.statements, rfl⟩

/-- A call that is out of order fails and does nothing. -/
theorem Call.run_writing_of_outage {α : Type} {call : Call} {hall : Hall} {kind : FaultKind}
    (hout : hall.outages.find? call = some kind) (f : Hall → Except Fault (α × Hall)) :
    (call.writing f).run hall = (.error (.outage call kind), hall) := by
  simp only [Call.writing, Act.run, hout]

/-- A call that is in order and changes nothing tells what it reads. -/
theorem Call.run_reading {α : Type} {call : Call} {hall : Hall}
    (inOrder : hall.outages.find? call = none) (f : Hall → Except Fault α) :
    (call.reading f).run hall = (f hall, hall) := by
  rw [reading, run_writing inOrder]
  cases f hall with
  | ok a => rfl
  | error e => rfl

namespace Act

variable {α β : Type}

/-- From a hall an operation **ends** in a condition if its outcome and the hall that it leaves
behind meet the condition. -/
def Ends (act : Act α) (hall : Hall) (q : Except Fault α → Hall → Prop) : Prop :=
  q (act.run hall).1 (act.run hall).2

/-- What the first of two operations has to end in for both to end in a condition. -/
abbrev Then (next : α → Act β) (q : Except Fault β → Hall → Prop) : Except Fault α → Hall → Prop
  | .ok a, hall => (next a).Ends hall q
  | .error e, hall => q (.error e) hall

/-- What an operation has to end in for it to end in a condition once its faults are handled. -/
abbrev Rescued (handler : Fault → Act α) (q : Except Fault α → Hall → Prop) :
    Except Fault α → Hall → Prop
  | .ok a, hall => q (.ok a) hall
  | .error e, hall => (handler e).Ends hall q

namespace Ends

variable {hall : Hall} {q : Except Fault α → Hall → Prop}

/-! ### Operations that are made of others -/

/-- A condition can be weakened. -/
theorem imp {act : Act α} {q' : Except Fault α → Hall → Prop} (h : act.Ends hall q)
    (hq : ∀ outcome hall', q outcome hall' → q' outcome hall') : act.Ends hall q' :=
  hq _ _ h

/-- An answer is given at once. -/
theorem answer {a : α} (h : q (.ok a) hall) : (pure a : Act α).Ends hall q := h

/-- A fault is raised at once. -/
theorem fail {e : Fault} (h : q (.error e) hall) : (throw e : Act α).Ends hall q := h

/-- One operation after another. -/
theorem bind {act : Act α} {next : α → Act β} {q : Except Fault β → Hall → Prop}
    (h : act.Ends hall (Then next q)) : (act >>= next).Ends hall q := by
  rw [Ends] at h
  rw [Ends, run_bind]
  cases hrun : act.run hall with
  | mk outcome hall' =>
      rw [hrun] at h
      cases outcome with
      | ok a => exact h
      | error e => exact h

/-- An operation whose answer is worked on. -/
theorem map {act : Act α} {f : α → β} {q : Except Fault β → Hall → Prop}
    (h : act.Ends hall fun outcome => q (outcome.map f)) : (f <$> act).Ends hall q := by
  rw [map_eq_pure_bind]
  refine bind (h.imp fun outcome after hafter => ?_)
  cases outcome with
  | ok a => exact hafter
  | error e => exact hafter

/-- An operation with somebody to handle its faults. -/
theorem rescue {act : Act α} {handler : Fault → Act α} (h : act.Ends hall (Rescued handler q)) :
    (act.rescue handler).Ends hall q := by
  rw [Ends] at h
  rw [Ends, run_rescue]
  cases hrun : act.run hall with
  | mk outcome hall' =>
      rw [hrun] at h
      cases outcome with
      | ok a => exact h
      | error e => exact h

/-- The lock changes nothing. -/
theorem locked {act : Act α} (h : act.Ends hall q) : act.locked.Ends hall q := by
  rw [Ends, run_locked]
  exact h

/-- What was decided before is given at once. -/
theorem ofExcept {x : Except Fault α} (herror : ∀ e, x = .error e → q (.error e) hall)
    (hok : ∀ a, x = .ok a → q (.ok a) hall) : (Act.ofExcept x).Ends hall q := by
  cases x with
  | ok a => exact hok a rfl
  | error e => exact herror e rfl

/-- A condition lets an operation go on or ends it. -/
theorem ensure {p : Prop} [Decidable p] {fault : Fault} {q : Except Fault Unit → Hall → Prop}
    (herror : ¬ p → q (.error fault) hall) (hok : p → q (.ok ()) hall) :
    (Act.ensure p fault).Ends hall q := by
  rw [Ends, run_ensure]
  split
  · next hp => exact hok hp
  · next hp => exact herror hp

/-- What was found lets an operation go on; if nothing was found, the operation ends. -/
theorem found {a? : Option α} {fault : Fault} (herror : a? = none → q (.error fault) hall)
    (hok : ∀ a, a? = some a → q (.ok a) hall) : (Act.found fault a?).Ends hall q := by
  cases a? with
  | none => exact herror rfl
  | some a => exact hok a rfl

/-- A look at the hall. -/
theorem get {q : Except Fault Hall → Hall → Prop} (h : q (.ok hall) hall) :
    (MonadStateOf.get : Act Hall).Ends hall q := h

/-- A notice is written to the log. -/
theorem note {notice : Notice} {user : String} {q : Except Fault Unit → Hall → Prop}
    (h : ∀ log, q (.ok ()) { hall with log }) : (Act.note notice user).Ends hall q :=
  h _

/-! ### The shapes of calls -/

/-- A call that changes the hall. If it fails though it is in order, its work has failed. -/
theorem writing {call : Call} {f : Hall → Except Fault (α × Hall)}
    (herror : ∀ e, (hall.outages.find? call = none → f hall = .error e) → q (.error e) hall)
    (hok : ∀ a hall', f hall = .ok (a, hall') → q (.ok a) hall') :
    (call.writing f).Ends hall q := by
  cases hout : hall.outages.find? call with
  | some kind =>
      rw [Ends, Call.run_writing_of_outage hout]
      refine herror _ fun hnone => ?_
      rw [hout] at hnone
      cases hnone
  | none =>
      rw [Ends, Call.run_writing hout]
      cases hf : f hall with
      | error e => exact herror e fun _ => hf
      | ok result => exact hok result.1 result.2 hf

/-- A call whose work is first to find something out, which settles all the rest. -/
theorem mapped {call : Call} {f : Hall → Except Fault β} {g : Hall → β → α × Hall}
    (herror : ∀ e, (hall.outages.find? call = none → f hall = .error e) → q (.error e) hall)
    (hok : ∀ b, f hall = .ok b → q (.ok (g hall b).1) (g hall b).2) :
    (call.writing fun hall => (f hall).map (g hall)).Ends hall q := by
  cases hf : f hall with
  | error e =>
      refine writing (fun e' he' => herror e' fun hout => ?_) fun a hall' ha => ?_
      · rw [hf] at he' ⊢
        exact congrArg Except.error (Except.error.inj (he' hout))
      · rw [hf] at ha
        cases ha
  | ok b =>
      refine writing (fun e' he' => herror e' fun hout => ?_) fun a hall' ha => ?_
      · rw [hf] at he'
        cases he' hout
      · rw [hf] at ha
        obtain ⟨rfl, rfl⟩ := Prod.mk.inj (Except.ok.inj ha)
        exact hok b hf

/-- A call that changes nothing. -/
theorem reading {call : Call} {f : Hall → Except Fault α}
    (herror : ∀ e, (hall.outages.find? call = none → f hall = .error e) → q (.error e) hall)
    (hok : ∀ a, f hall = .ok a → q (.ok a) hall) : (call.reading f).Ends hall q :=
  mapped herror hok

/-- A call that changes the stores. -/
theorem storing {call : Call} {f : Stores → Except Fault Stores}
    {q : Except Fault Unit → Hall → Prop}
    (herror : ∀ e, (hall.outages.find? call = none → f hall.stores = .error e) → q (.error e) hall)
    (hok : ∀ stores, f hall.stores = .ok stores → q (.ok ()) { hall with stores }) :
    (call.storing f).Ends hall q :=
  mapped (f := fun hall => f hall.stores) herror hok

/-! ### Calls -/

/-- The quiz of an id is looked up. -/
theorem quiz? {id : String} {q : Except Fault (Option Quiz) → Hall → Prop}
    (herror : ∀ e, q (.error e) hall)
    (hok : ∀ quiz?, hall.stores.quiz? id = .ok quiz? → q (.ok quiz?) hall) :
    (Act.quiz? id).Ends hall q :=
  reading (fun e _ => herror e) hok

/-- The key of a quiz is looked up. -/
theorem key? {id : String} {q : Except Fault (Option Answers) → Hall → Prop}
    (herror : ∀ e, q (.error e) hall)
    (hok : ∀ key?, hall.stores.key? id = .ok key? → q (.ok key?) hall) :
    (Act.key? id).Ends hall q :=
  reading (fun e _ => herror e) hok

/-- The counter is looked up. -/
theorem counter {q : Except Fault Int → Hall → Prop} (herror : ∀ e, q (.error e) hall)
    (hok : ∀ n, hall.stores.counter = .ok n → q (.ok n) hall) : Act.counter.Ends hall q :=
  reading (fun e _ => herror e) hok

/-- A quiz is removed. -/
theorem deleteQuiz {id : String} {q : Except Fault Unit → Hall → Prop}
    (herror : ∀ e, (hall.outages.find? .quizDelete = none →
      hall.stores.deleteQuiz id = .error e) → q (.error e) hall)
    (hok : ∀ stores, hall.stores.deleteQuiz id = .ok stores → q (.ok ()) { hall with stores }) :
    (Act.deleteQuiz id).Ends hall q :=
  storing herror hok

/-- A bucket is emptied. If its entries cannot be read after that, they are lost. -/
theorem drainBucket {bucket : String} {q : Except Fault (List String) → Hall → Prop}
    (herror : ∀ e, q (.error e) hall)
    (hlost : ∀ e stores, hall.stores.drainBucket bucket = .ok (.error e, stores) →
      q (.error e) { hall with stores })
    (hok : ∀ ids stores, hall.stores.drainBucket bucket = .ok (.ok ids, stores) →
      q (.ok ids) { hall with stores }) : (Act.drainBucket bucket).Ends hall q := by
  refine bind (mapped (fun e _ => herror e) fun ⟨ids?, stores⟩ hdrain => ?_)
  refine ofExcept (fun e he => ?_) fun ids hids => ?_
  · exact hlost e stores (he ▸ hdrain)
  · exact hok ids stores (hids ▸ hdrain)

/-- The rating of an account is looked up. -/
theorem rating {account : String} {q : Except Fault Int → Hall → Prop}
    (herror : ∀ e, q (.error e) hall)
    (hok : ∀ n statements, hall.stores.rating account = .ok n →
      q (.ok n) { hall with statements }) : (Act.rating account).Ends hall q := by
  refine mapped (fun e _ => herror e) fun n hn => ?_
  obtain ⟨statements, hsend⟩ := hall.exists_send (.select account)
  rw [hsend]
  exact hok n statements hn

/-- The rating of an account is stored. -/
theorem saveRating {account : String} {n : Int} {q : Except Fault Unit → Hall → Prop}
    (herror : ∀ e, (hall.outages.find? .ratingSave = none →
      hall.stores.saveRating account n = .error e) → q (.error e) hall)
    (hok : ∀ stores statements, hall.stores.saveRating account n = .ok stores →
      q (.ok ()) { hall with stores, statements }) : (Act.saveRating account n).Ends hall q := by
  refine mapped herror fun stores hstores => ?_
  obtain ⟨statements, hsend⟩ := Hall.exists_send { hall with stores } (.upsert account n)
  rw [hsend]
  exact hok stores statements hstores

/-- Publishing an event never fails. -/
theorem publish {rules : Rules} {event : Event} {q : Except Fault Unit → Hall → Prop}
    (h : ∀ events log, q (.ok ()) { hall with events, log }) :
    (Act.publish rules event).Ends hall q := by
  refine rescue (writing (fun e _ => ?_) fun a hall' hf => ?_)
  · exact note fun log => h hall.events log
  · obtain ⟨-, rfl⟩ := Prod.mk.inj (Except.ok.inj hf)
    cases rules.keepsEvents with
    | true => exact h _ _
    | false => exact h hall.events hall.log

/-! ### The steps of an attempt -/

/-- **A payment** is made, or refused without a trace. -/
theorem pay {payer owner : String} {amount : Int} {q : Except Fault Unit → Hall → Prop}
    (herror : ∀ e, q (.error e) hall)
    (hok : ∀ ledger log, Paid hall.ledger payer owner amount ledger →
      q (.ok ()) { hall with ledger, log }) : (Act.pay payer owner amount).Ends hall q := by
  rw [Act.pay]
  by_cases hzero : amount = 0
  · rw [if_pos hzero]
    exact hok hall.ledger hall.log (.nothing hzero)
  rw [if_neg hzero]
  refine bind (reading (fun e _ => herror e) fun free hfree => ?_)
  obtain rfl := Except.ok.inj hfree
  refine bind (ensure (fun _ => herror _) fun hle => ?_)
  refine rescue (mapped (fun e _ => ?_) fun ledger hledger => ?_)
  · exact fail (herror _)
  · exact hok ledger _ (.moved hzero hle hledger)

/-- **The rating of an account is blended** with a score that counts. -/
theorem updateRating {account : String} {score prior : Int} {q : Except Fault Int → Hall → Prop}
    (hscore : 0 ≤ score ∧ score ≤ (maxScore : Int))
    (herror : ∀ e, (hall.outages.find? .ratingSave = none →
      hall.stores.saveRating account (Rating.blend prior score) = .error e) → q (.error e) hall)
    (hok : ∀ stores log statements,
      hall.stores.saveRating account (Rating.blend prior score) = .ok stores →
        q (.ok (Rating.blend prior score)) { hall with stores, log, statements }) :
    (Act.updateRating account score (some prior)).Ends hall q := by
  have hcheck : Rating.checkScore score = .ok () := if_pos hscore
  refine bind (ofExcept (fun e he => ?_) fun _ _ => ?_)
  · rw [hcheck] at he
    cases he
  refine bind (answer (bind (saveRating herror fun stores statements hstores => ?_)))
  exact bind (note fun log => hok stores log statements hstores)

/-! ### The steps of a creation -/

/-- **A quiz is placed** under its id, or the log may say why not. -/
theorem place {sequence : Int} {id : String} {quiz : Quiz} {key : Answers}
    {q : Except Fault Unit → Hall → Prop} (herror : ∀ e log, q (.error e) { hall with log })
    (hok : ∀ stores, hall.stores.createQuiz id quiz key = .ok stores →
      q (.ok ()) { hall with stores }) : (Act.place sequence id quiz key).Ends hall q := by
  refine rescue (storing (fun e _ => ?_) hok)
  change Ends (do
    if e.kind = .alreadyExists then Act.note (.idTaken id sequence) quiz.owner
    throw e) hall q
  by_cases hkind : e.kind = .alreadyExists
  · rw [if_pos hkind]
    exact bind (note fun log => fail (herror e log))
  · rw [if_neg hkind]
    exact bind (answer (fail (herror e hall.log)))

/-- An id is put into the bucket of its tick, if there is one. -/
theorem add_due {s : Schedule} {now : Int} {id : String} {q : Except Fault Int → Hall → Prop}
    (herror : ∀ e, q (.error e) hall)
    (hok : ∀ bucket stores log, s.derive (now + s.delay) = .ok bucket →
      hall.stores.appendBucket bucket id = .ok stores →
        q (.ok (now + s.delay)) { hall with stores, log }) : (s.add now id).Ends hall q := by
  refine bind (ofExcept (fun e _ => herror e) fun bucket hbucket => ?_)
  refine bind (storing (fun e _ => herror e) fun stores happend => ?_)
  exact bind (note fun log => answer (hok bucket stores log hbucket happend))

/-- Scheduling, for those who need not know which tick a bucket belongs to. -/
theorem add {s : Schedule} {now : Int} {id : String} {q : Except Fault Int → Hall → Prop}
    (herror : ∀ e, q (.error e) hall)
    (hok : ∀ bucket stores log, hall.stores.appendBucket bucket id = .ok stores →
      q (.ok (now + s.delay)) { hall with stores, log }) : (s.add now id).Ends hall q :=
  add_due herror fun bucket stores log _ => hok bucket stores log

/-- **A new quiz is scheduled and counted.** Either nothing happens, or it is scheduled but the
counter does not move, or both is done. -/
theorem book {rules : Rules} {sequence : Int} {id : String} {q : Except Fault Int → Hall → Prop}
    (herror : ∀ e, q (.error e) hall)
    (hstuck : ∀ e bucket stores log, hall.stores.appendBucket bucket id = .ok stores →
      (hall.outages.find? .counterPut = none → stores.putCounter sequence = .error e) →
        q (.error e) { hall with stores, log })
    (hok : ∀ due bucket stores stores' log, hall.stores.appendBucket bucket id = .ok stores →
      stores.putCounter sequence = .ok stores' →
        q (.ok due) { hall with stores := stores', log }) :
    (Act.book rules sequence id).Ends hall q := by
  refine bind (get (bind (add herror fun bucket stores log happend => ?_)))
  refine bind (storing (fun e he => ?_) fun stores' hput => ?_)
  · exact hstuck e bucket stores log happend he
  · exact answer (hok _ bucket stores stores' log happend hput)

/-! ### The steps of a tick -/

/-- **A tick fires**: its bucket is emptied, if it has one. -/
theorem fire {s : Schedule} {tick : Int} {q : Except Fault (List String) → Hall → Prop}
    (herror : ∀ e, q (.error e) hall)
    (hlost : ∀ e bucket stores, hall.stores.drainBucket bucket = .ok (.error e, stores) →
      q (.error e) { hall with stores })
    (hok : ∀ ids bucket stores log, hall.stores.drainBucket bucket = .ok (.ok ids, stores) →
      q (.ok ids) { hall with stores, log }) : (s.fire tick).Ends hall q := by
  refine bind (ofExcept (fun e _ => herror e) fun bucket _ => ?_)
  refine bind (drainBucket herror (fun e stores => hlost e bucket stores)
    fun ids stores hdrain => ?_)
  change Ends (do
    if ids ≠ [] then Act.note (.fired tick ids.length)
    return ids) { hall with stores } q
  by_cases hids : ids ≠ []
  · rw [if_pos hids]
    exact bind (note fun log => answer (hok ids bucket stores log hdrain))
  · rw [if_neg hids]
    exact bind (answer (answer (hok ids bucket stores hall.log hdrain)))

/-! ### Whole operations under the lock -/

/-- **A deletion** is refused, or removes a quiz of the sender. -/
theorem deleteBy {rules : Rules} {sender : String} {sequence : Int}
    {q : Except Fault Unit → Hall → Prop} (herror : ∀ e, q (.error e) hall)
    (hok : ∀ id quiz stores log, hall.stores.quiz? id = .ok (some quiz) → sender = quiz.owner →
      hall.stores.deleteQuiz id = .ok stores → q (.ok ()) { hall with stores, log }) :
    (Act.deleteBy rules sender sequence).Ends hall q := by
  refine bind (ofExcept (fun e _ => herror e) fun id _ => ?_)
  refine bind (quiz? herror fun quiz? hquiz => ?_)
  refine bind (found (fun _ => herror _) fun quiz hfound => ?_)
  refine bind (ensure (fun _ => herror _) fun howner => ?_)
  refine bind (deleteQuiz (fun e _ => herror e) fun stores hdelete => ?_)
  exact note fun log => hok id quiz stores log (hfound ▸ hquiz) howner hdelete

/-- **An attempt** is refused before anything is changed, or the account is admitted and pays. In
the end the blend of its rating and its score is stored, unless that fails. -/
theorem attemptBy_of_admits {rules : Rules} {sender : String} {sequence : Int}
    {submission : Answers} {q : Except Fault Nat → Hall → Prop}
    (herror : ∀ e statements, q (.error e) { hall with statements })
    (hunrated : ∀ e quiz key prior ledger log statements,
      hall.Admits rules sender sequence quiz key prior →
        Paid hall.ledger sender quiz.owner (cost rules (submission.score key)) ledger →
          (hall.outages.find? .ratingSave = none → hall.stores.saveRating sender
            (Rating.blend prior (submission.score key)) = .error e) →
            q (.error e) { hall with ledger, log, statements })
    (hok : ∀ quiz key prior stores ledger events log statements,
      hall.Admits rules sender sequence quiz key prior →
        Paid hall.ledger sender quiz.owner (cost rules (submission.score key)) ledger →
          hall.stores.saveRating sender (Rating.blend prior (submission.score key)) = .ok stores →
            q (.ok (submission.score key)) { hall with stores, ledger, events, log, statements }) :
    (Act.attemptBy rules sender sequence submission).Ends hall q := by
  have hearly (e : Fault) : q (.error e) hall := herror e hall.statements
  refine bind (ofExcept (fun e _ => hearly e) fun id hid => ?_)
  refine bind (quiz? hearly fun quiz? hquiz => ?_)
  refine bind (found (fun _ => hearly _) fun quiz hfound => ?_)
  refine bind (ensure (fun _ => hearly _) fun hother => ?_)
  refine bind (rating hearly fun prior statements hprior => ?_)
  refine bind (ensure (fun _ => herror _ statements) fun hgate => ?_)
  refine bind (key? (fun e => herror e statements) fun key? hkey => ?_)
  refine bind (found (fun _ => herror _ statements) fun key hfoundKey => ?_)
  have hadmits : hall.Admits rules sender sequence quiz key prior :=
    ⟨⟨id, hid, hfound ▸ hquiz, hfoundKey ▸ hkey⟩, hother, hprior, hgate⟩
  refine bind (pay (fun e => herror e statements) fun ledger log hpaid => ?_)
  have hscore := submission.score_le key
  refine bind (updateRating (by omega) (fun e he => ?_) fun stores log statements hsave => ?_)
  · exact hunrated e quiz key prior ledger log statements hadmits hpaid he
  · exact bind (note fun _ => bind (publish fun events log =>
      answer (hok quiz key prior stores ledger events log statements hadmits hpaid hsave)))

/-- An attempt, for those who need not know who is admitted to what and what is stored. -/
theorem attemptBy {rules : Rules} {sender : String} {sequence : Int} {submission : Answers}
    {q : Except Fault Nat → Hall → Prop}
    (herror : ∀ e statements, q (.error e) { hall with statements })
    (hunrated : ∀ e owner amount prior rated ledger log statements,
      Paid hall.ledger sender owner amount ledger → hall.stores.rating sender = .ok prior →
        (hall.outages.find? .ratingSave = none →
          hall.stores.saveRating sender rated = .error e) →
          q (.error e) { hall with ledger, log, statements })
    (hok : ∀ score owner amount rated stores ledger events log statements,
      Paid hall.ledger sender owner amount ledger →
        hall.stores.saveRating sender rated = .ok stores →
        q (.ok score) { hall with stores, ledger, events, log, statements }) :
    (Act.attemptBy rules sender sequence submission).Ends hall q := by
  refine attemptBy_of_admits herror
    (fun e quiz key prior ledger log statements hadmits hpaid he => ?_)
    fun quiz key prior stores ledger events log statements _ hpaid hsave => ?_
  · exact hunrated e quiz.owner _ prior _ ledger log statements hpaid hadmits.rating he
  · exact hok _ quiz.owner _ _ stores ledger events log statements hpaid hsave

/-- Undoing a creation ends in a fault, whatever was to be done after it. -/
theorem undo {id : String} {e : Fault} {next : α → Act β} {q : Except Fault β → Hall → Prop}
    (h : (Act.deleteQuiz id).Ends hall (Then (fun _ => throw e) q)) :
    (do Act.deleteQuiz id; throw e : Act α).Ends hall (Then next q) := by
  refine bind (h.imp fun outcome after hafter => ?_)
  cases outcome with
  | ok _ => exact hafter
  | error e' => exact hafter

/-- **A creation** is refused before anything is stored, or the quiz is placed under the next
number. If it cannot be scheduled and counted, the placing is undone. -/
theorem enter_next {rules : Rules} {quiz : Quiz} {key : Answers}
    {q : Except Fault Int → Hall → Prop}
    (herror : ∀ e log, q (.error e) { hall with log })
    (hundo : ∀ id placed e, hall.stores.createQuiz id quiz key = .ok placed →
      (Act.deleteQuiz id).Ends { hall with stores := placed } (Then (fun _ => throw e) q))
    (hstuck : ∀ n id bucket placed stores log e, hall.stores.counter = .ok n →
      hall.stores.createQuiz id quiz key = .ok placed →
        placed.appendBucket bucket id = .ok stores →
          (hall.outages.find? .counterPut = none → stores.putCounter (n + 1) = .error e) →
            (Act.deleteQuiz id).Ends { hall with stores, log } (Then (fun _ => throw e) q))
    (hok : ∀ n id bucket placed stores stores' events log, hall.stores.counter = .ok n →
      rules.derive (n + 1) = .ok id → hall.stores.createQuiz id quiz key = .ok placed →
        placed.appendBucket bucket id = .ok stores → stores.putCounter (n + 1) = .ok stores' →
          q (.ok (n + 1)) { hall with stores := stores', events, log }) :
    (Act.enter rules quiz key).Ends hall q := by
  have hearly (e : Fault) : q (.error e) hall := herror e hall.log
  refine bind (counter hearly fun n hn => ?_)
  refine bind (ofExcept (fun e _ => hearly e) fun id hid => ?_)
  refine bind (place herror fun placed hplaced => ?_)
  refine bind (rescue (book (fun e => ?_) (fun e bucket stores log happend he => ?_)
    fun due bucket stores stores' log happend hput => ?_))
  · exact undo (hundo id placed e hplaced)
  · exact undo (hstuck n id bucket placed stores log e hn hplaced happend he)
  · exact bind (note fun _ => bind (publish fun events log =>
      answer (hok n id bucket placed stores stores' events log hn hid hplaced happend hput)))

/-- A creation, for those who need not know which number comes next. -/
theorem enter {rules : Rules} {quiz : Quiz} {key : Answers} {q : Except Fault Int → Hall → Prop}
    (herror : ∀ e log, q (.error e) { hall with log })
    (hundo : ∀ id placed e, hall.stores.createQuiz id quiz key = .ok placed →
      (Act.deleteQuiz id).Ends { hall with stores := placed } (Then (fun _ => throw e) q))
    (hstuck : ∀ n id bucket placed stores log e, hall.stores.counter = .ok n →
      hall.stores.createQuiz id quiz key = .ok placed →
        placed.appendBucket bucket id = .ok stores →
          (hall.outages.find? .counterPut = none → stores.putCounter (n + 1) = .error e) →
            (Act.deleteQuiz id).Ends { hall with stores, log } (Then (fun _ => throw e) q))
    (hok : ∀ n id bucket placed stores stores' events log,
      hall.stores.createQuiz id quiz key = .ok placed →
        placed.appendBucket bucket id = .ok stores → stores.putCounter (n + 1) = .ok stores' →
          q (.ok (n + 1)) { hall with stores := stores', events, log }) :
    (Act.enter rules quiz key).Ends hall q :=
  enter_next herror hundo hstuck fun n id bucket placed stores stores' events log _ _ =>
    hok n id bucket placed stores stores' events log

end Ends

end Act

end QuizHall
