import QuizHall.Hall.Request

/-!
# Operations Under the Lock

The operations of a hall that change its quizzes have one shape. Whatever can be decided by the call
alone is decided before the lock is asked for. Everything else is done under the lock, and nothing
is done after it was given back but to answer. Nobody asks for the lock while holding it, so nobody
waits for it in vain.

The shape is read off the steps of an operation, in every hall in which it could be carried out. So
it does not depend on what is in the stores, on which calls are out of order, or on which of them
have their answers awaited.

## Main definitions

* `Act.Lockless`: operations that have nothing to do with the lock.
* `Act.Holding`: operations that hold the lock, and give it back in the end.
* `Act.Orderly`: operations that ask for the lock at once, if they ask for it at all.
* `Request.TakesLock`: the requests that are carried out under the lock.

## Main results

* `Act.Orderly.locked`, `Act.Orderly.map`: how orderly operations are made.
* `Request.orderly`: the requests that are carried out under the lock are orderly.
-/

namespace QuizHall

variable {α β : Type}

namespace Act

/-- An operation is **lockless** if it neither takes the lock nor gives it back. -/
inductive Lockless : Act α → Prop
  /-- It answers. -/
  | answer (a : α) : Lockless (answer a)
  /-- It fails. -/
  | fail (e : Fault) : Lockless (fail e)
  /-- It looks at the hall, and is lockless whatever it sees. -/
  | look {next : Hall → Act α} (h : ∀ hall, Lockless (next hall)) : Lockless (look next)
  /-- It leaves another hall behind. -/
  | leave (hall : Hall) {next : Act α} (h : Lockless next) : Lockless (leave hall next)
  /-- It waits. -/
  | await (wait : Wait) {next : Act α} (h : Lockless next) : Lockless (await wait next)

/-- An operation is **holding** the lock if it gives it back in the end, does not ask for it before,
and does nothing after that but to answer or fail. -/
inductive Holding : Act α → Prop
  /-- It gives the lock back. -/
  | release (outcome : Except Fault α) : Holding (release (ofExcept outcome))
  /-- It looks at the hall, and goes on holding the lock whatever it sees. -/
  | look {next : Hall → Act α} (h : ∀ hall, Holding (next hall)) : Holding (look next)
  /-- It leaves another hall behind. -/
  | leave (hall : Hall) {next : Act α} (h : Holding next) : Holding (leave hall next)
  /-- It waits. -/
  | await (wait : Wait) {next : Act α} (h : Holding next) : Holding (await wait next)

/-- An operation is **orderly** if it comes to something at once, or asks for the lock at once and
holds it to its end. -/
inductive Orderly : Act α → Prop
  /-- It comes to something at once. -/
  | ofExcept (outcome : Except Fault α) : Orderly (ofExcept outcome)
  /-- It asks for the lock. -/
  | acquire {next : Act α} (h : Holding next) : Orderly (acquire next)

/-! ### Lockless operations -/

namespace Lockless

/-- What follows a lockless operation may be lockless, too. -/
theorem follow {act : Act α} {next : Except Fault α → Act β} (h : act.Lockless)
    (hnext : ∀ outcome, (next outcome).Lockless) : (act.follow next).Lockless := by
  induction h with
  | answer a => exact hnext (.ok a)
  | fail e => exact hnext (.error e)
  | look _ ih => exact look ih
  | leave hall _ ih => exact leave hall ih
  | await wait _ ih => exact await wait ih

theorem bind {act : Act α} {next : α → Act β} (h : act.Lockless) (hnext : ∀ a, (next a).Lockless) :
    (act >>= next).Lockless :=
  h.follow fun outcome =>
    match outcome with
    | .ok a => hnext a
    | .error e => .fail e

theorem rescue {act : Act α} {handler : Fault → Act α} (h : act.Lockless)
    (hhandler : ∀ e, (handler e).Lockless) : (act.rescue handler).Lockless :=
  h.follow fun outcome =>
    match outcome with
    | .ok a => .answer a
    | .error e => hhandler e

theorem ite {p : Prop} [Decidable p] {act other : Act α} (h : act.Lockless)
    (hother : other.Lockless) : (if p then act else other).Lockless := by
  split
  · exact h
  · exact hother

/-! ### Small operations and calls -/

theorem ofExcept (outcome : Except Fault α) : (Act.ofExcept outcome).Lockless :=
  match outcome with
  | .ok a => .answer a
  | .error e => .fail e

theorem ensure (p : Prop) [Decidable p] (fault : Fault) : (Act.ensure p fault).Lockless :=
  ite (.answer ()) (.fail fault)

theorem found (fault : Fault) (a? : Option α) : (Act.found fault a?).Lockless :=
  match a? with
  | some a => .answer a
  | none => .fail fault

theorem get : (MonadStateOf.get : Act Hall).Lockless := .look .answer

theorem note (notice : Notice) (user : String) : (Act.note notice user).Lockless :=
  .look fun _ => .leave _ (.answer ())

/-- So is every call. -/
theorem writing (call : Call) (f : Hall → Except Fault (α × Hall)) : (call.writing f).Lockless := by
  refine .look fun hall => ?_
  cases hall.outages.find? call with
  | some kind => exact .fail _
  | none =>
      refine .await _ (.look fun hall => ?_)
      cases f hall with
      | ok result => exact .leave _ (.answer _)
      | error e => exact .fail e

theorem reading (call : Call) (f : Hall → Except Fault α) : (call.reading f).Lockless :=
  writing _ _

theorem publish (rules : Rules) (event : Event) : (Act.publish rules event).Lockless :=
  (writing _ _).rescue fun _ => note _ _

/-! ### What is done under the lock -/

/-- Entering a quiz. -/
theorem enter (rules : Rules) (quiz : Quiz) (key : Answers) :
    (Act.enter rules quiz key).Lockless := by
  have hplace (sequence : Int) (id : String) : (place sequence id quiz key).Lockless :=
    (writing _ _).rescue fun e => ite ((note _ _).bind fun _ => .fail e) (.fail e)
  have hbook (sequence : Int) (id : String) : (book rules sequence id).Lockless := by
    refine get.bind fun hall => bind ?_ fun due => (writing _ _).bind fun _ => .answer due
    exact (ofExcept _).bind fun bucket => (writing _ _).bind fun _ =>
      (note _ _).bind fun _ => .answer _
  refine (reading _ _).bind fun latest => (ofExcept _).bind fun id => (hplace _ id).bind fun _ => ?_
  refine ((hbook _ id).rescue fun e => (writing _ _).bind fun _ => .fail e).bind fun due => ?_
  exact (note _ _).bind fun _ => (publish rules _).bind fun _ => .answer _

/-- Scoring a submission. -/
theorem attemptBy (rules : Rules) (sender : String) (sequence : Int) (submission : Answers) :
    (Act.attemptBy rules sender sequence submission).Lockless := by
  have hpay (owner : String) (amount : Int) : (pay sender owner amount).Lockless := by
    have hbalance : (balance sender).Lockless := reading _ _
    have htransfer : (transfer sender owner amount true).Lockless := writing _ _
    exact ite (.answer ()) (hbalance.bind fun free => (ensure _ _).bind fun _ =>
      htransfer.rescue fun e => .fail _)
  have hrate (score prior : Int) : (updateRating sender score (some prior)).Lockless :=
    (ofExcept _).bind fun _ => (writing _ _).bind fun _ => (note _ _).bind fun _ => .answer _
  refine (ofExcept _).bind fun id => (reading _ _).bind fun quiz? => (found _ _).bind fun quiz => ?_
  refine (ensure _ _).bind fun _ => (writing _ _).bind fun prior => (ensure _ _).bind fun _ => ?_
  refine (reading _ _).bind fun key? => (found _ _).bind fun key => (hpay _ _).bind fun _ => ?_
  exact (hrate _ prior).bind fun _ => (note _ _).bind fun _ =>
    (publish rules _).bind fun _ => .answer _

/-- Deleting a quiz. -/
theorem deleteBy (rules : Rules) (sender : String) (sequence : Int) :
    (Act.deleteBy rules sender sequence).Lockless := by
  refine (ofExcept _).bind fun id => (reading _ _).bind fun quiz? => (found _ _).bind fun quiz => ?_
  exact (ensure _ _).bind fun _ => (writing _ _).bind fun _ => note _ _

/-- Deleting what falls due. -/
theorem expire (rules : Rules) (tick : Int) : (Act.expire rules tick).Lockless := by
  have hdrain (bucket : String) : (drainBucket bucket).Lockless :=
    (writing _ _).bind fun ids? => ofExcept ids?
  have hfire : (rules.schedule.fire tick).Lockless :=
    (ofExcept _).bind fun bucket => (hdrain bucket).bind fun ids =>
      ite ((note _ _).bind fun _ => .answer ids) (.answer ids)
  have hsweep (ids : List String) : (sweep rules tick ids).Lockless := by
    induction ids with
    | nil => exact .answer ()
    | cons id ids ih => exact (writing _ _).bind fun _ => (publish rules _).bind fun _ => ih
  exact hfire.bind fun ids => (hsweep ids).bind fun _ => .answer ids

end Lockless

/-! ### Orderly operations -/

/-- A lockless operation under the lock holds it. -/
theorem Lockless.holding {act : Act α} (h : act.Lockless) :
    (act.follow fun outcome => .release (.ofExcept outcome)).Holding := by
  induction h with
  | answer a => exact .release (.ok a)
  | fail e => exact .release (.error e)
  | look _ ih => exact .look ih
  | leave hall _ ih => exact .leave hall ih
  | await wait _ ih => exact .await wait ih

/-- Who holds the lock can work on the answer. -/
theorem Holding.follow {act : Act α} (h : act.Holding) (f : Except Fault α → Except Fault β) :
    (act.follow fun outcome => .ofExcept (f outcome)).Holding := by
  induction h with
  | release outcome =>
      have hfollow : (Act.ofExcept outcome).follow (fun outcome => .ofExcept (f outcome)) =
          .ofExcept (f outcome) := by
        cases outcome <;> rfl
      change (Act.release ((Act.ofExcept outcome).follow _)).Holding
      rw [hfollow]
      exact .release (f outcome)
  | look _ ih => exact .look ih
  | leave hall _ ih => exact .leave hall ih
  | await wait _ ih => exact .await wait ih

namespace Orderly

/-- A lockless operation becomes orderly under the lock. -/
theorem locked {act : Act α} (h : act.Lockless) : act.locked.Orderly := .acquire h.holding

/-- What was decided before may end an orderly operation at once. -/
theorem bind_ofExcept (x : Except Fault α) {next : α → Act β} (h : ∀ a, (next a).Orderly) :
    (Act.ofExcept x >>= next).Orderly :=
  match x with
  | .ok a => h a
  | .error e => .ofExcept (.error e)

/-- The answer of an orderly operation can be worked on. -/
theorem map (f : α → β) {act : Act α} (h : act.Orderly) : (f <$> act).Orderly := by
  have hmap : f <$> act = act.follow fun outcome => .ofExcept (outcome.map f) := by
    rw [map_eq_pure_bind]
    exact congrArg act.follow (funext fun outcome => by cases outcome <;> rfl)
  rw [hmap]
  cases h with
  | ofExcept outcome =>
      cases outcome with
      | ok a => exact .ofExcept (.ok (f a))
      | error e => exact .ofExcept (.error e)
  | acquire hholding => exact .acquire (hholding.follow (Except.map f))

end Orderly

end Act

/-! ### Requests -/

/-- The requests that are carried out **under the lock**: those that change quizzes, keys, buckets,
ratings or balances, other than through the loop over the ticks. -/
def Request.TakesLock : Request → Prop
  | create .. | attempt .. | delete .. | tick .. => True
  | _ => False

/-- **Requests that take the lock are orderly.** -/
theorem Request.orderly (rules : Rules) {request : Request} (h : request.TakesLock) :
    (request.act rules).Orderly := by
  cases request with
  | create ctx questions key gate =>
      exact .map _ (.bind_ofExcept _ fun quiz => .locked (.enter rules quiz key))
  | attempt ctx sequence submission =>
      exact .map _ (.bind_ofExcept _ fun sender =>
        .locked (.attemptBy rules sender sequence submission))
  | delete ctx sequence =>
      exact .map _ (.bind_ofExcept _ fun sender => .locked (.deleteBy rules sender sequence))
  | tick now => exact .map _ (.locked (.expire rules now))
  | _ => exact h.elim

end QuizHall
