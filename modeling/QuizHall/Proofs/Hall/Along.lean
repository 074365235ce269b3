import Mathlib.Order.Defs.Unbundled
import QuizHall.Hall.Request
import QuizHall.Proofs.Hall.Ending
import QuizHall.Proofs.Identifier

/-!
# What Operations Do to the Stores

An operation moves **along** a relation if the stores after it are related to those before it,
whatever is in them, whichever calls are out of order, and whether the operation succeeds or fails.
Where the relation is reflexive and transitive, this can be read off from what the operation is made
of: there is one rule for every way in which operations are put together, and one for every call.

Relations of two kinds are of use. Stores can agree on a slot: then the operation **leaves** the
slot alone. Quizzes, their keys and the buckets come and go, but ratings and the counter last, and a
rating is changed by nothing but an attempt, the counter by nothing but a creation. And stores can
have whatever invariant the stores before them had: then the operation keeps the invariant.

## Main definitions

* `Act.Along`: operations that move along a relation between stores.
* `Hall.Reached`: the halls that requests lead to, whichever calls fail on the way.

## Main results

* `Along.bind`, `Along.rescue`: operations that are made of others.
* `Along.create`, `Along.attempt`, `Along.onTick`: operations, by the changes that they make.
* `Request.leaves`: which requests leave ratings and the counter alone.
* `Reached.along`: where all requests lead.
-/

namespace QuizHall

variable {α β : Type}

/-- An operation moves **along** a relation if it takes every hall to stores that are related to
those before. -/
def Act.Along (act : Act α) (R : Stores → Stores → Prop) : Prop :=
  ∀ hall : Hall, act.Ends hall fun _ after => R hall.stores after.stores

/-- A relation **allows removals** if stores are related to what is left of them when a quiz is
removed or a bucket is emptied. -/
structure Stores.AllowsRemovals (R : Stores → Stores → Prop) : Prop where
  /-- A quiz may be removed. -/
  deleteQuiz : ∀ {s s' : Stores} {id : String}, s.deleteQuiz id = .ok s' → R s s'
  /-- A bucket may be emptied, whether its entries can be read or not. -/
  drainBucket : ∀ {s s' : Stores} {bucket : String} {ids? : Except Fault (List String)},
    s.drainBucket bucket = .ok (ids?, s') → R s s'

namespace Act.Along

variable {R : Stores → Stores → Prop}

/-! ### Operations that are made of others -/

/-- An operation whose answer is worked on. -/
theorem map {act : Act α} (f : α → β) (h : act.Along R) : (f <$> act).Along R :=
  fun hall => .map (h hall)

theorem locked {act : Act α} (h : act.Along R) : act.locked.Along R := fun hall => .locked (h hall)

/-- One operation or another. -/
theorem ite {p : Prop} [Decidable p] {act other : Act α} (h : act.Along R)
    (hother : other.Along R) : (if p then act else other).Along R := by
  split
  · exact h
  · exact hother

variable [IsPreorder Stores R]

/-- Whatever does not change the stores moves along. -/
theorem of_stores {act : Act α} (h : ∀ hall, (act.run hall).2.stores = hall.stores) :
    act.Along R := by
  intro hall
  rw [Ends, h]
  exact refl_of R hall.stores

theorem answer (a : α) : (pure a : Act α).Along R := of_stores fun _ => rfl

theorem fail (e : Fault) : (throw e : Act α).Along R := of_stores fun _ => rfl

/-- One operation after another. -/
theorem bind {act : Act α} {next : α → Act β} (h : act.Along R) (hnext : ∀ a, (next a).Along R) :
    (act >>= next).Along R := by
  intro hall
  refine .bind ((h hall).imp fun outcome middle hmiddle => ?_)
  cases outcome with
  | ok a => exact (hnext a middle).imp fun _ after hafter => trans_of R hmiddle hafter
  | error e => exact hmiddle

/-- An operation with somebody to handle its faults. -/
theorem rescue {act : Act α} {handler : Fault → Act α} (h : act.Along R)
    (hhandler : ∀ e, (handler e).Along R) : (act.rescue handler).Along R := by
  intro hall
  refine .rescue ((h hall).imp fun outcome middle hmiddle => ?_)
  cases outcome with
  | ok a => exact hmiddle
  | error e => exact (hhandler e middle).imp fun _ after hafter => trans_of R hmiddle hafter

theorem ofExcept (x : Except Fault α) : (Act.ofExcept x).Along R := by
  cases x with
  | ok a => exact answer a
  | error e => exact fail e

theorem ensure (p : Prop) [Decidable p] (fault : Fault) : (Act.ensure p fault).Along R := by
  rw [Act.ensure]
  split
  · exact answer ()
  · exact fail fault

theorem found (fault : Fault) (a? : Option α) : (Act.found fault a?).Along R := by
  cases a? with
  | some a => exact answer a
  | none => exact fail fault

theorem note (notice : Notice) (user : String) : (Act.note notice user).Along R :=
  of_stores fun _ => rfl

/-! ### Calls -/

/-- A call that changes nothing moves along. -/
theorem reading (call : Call) (f : Hall → Except Fault α) : (call.reading f).Along R := by
  intro hall
  exact .reading (fun _ _ => refl_of R hall.stores) fun _ _ => refl_of R hall.stores

/-- A call that changes the stores moves along if the change does. -/
theorem storing {call : Call} {f : Stores → Except Fault Stores}
    (h : ∀ s s', f s = .ok s' → R s s') : (call.storing f).Along R := by
  intro hall
  exact .storing (fun _ _ => refl_of R hall.stores) fun stores hf => h hall.stores stores hf

/-- Publishing an event has nothing to do with the stores. -/
theorem publish (rules : Rules) (event : Event) : (Act.publish rules event).Along R :=
  fun hall => .publish fun _ _ => refl_of R hall.stores

/-- Nor has looking up a rating. -/
theorem rating (account : String) : (Act.rating account).Along R :=
  fun hall => .rating (fun _ => refl_of R hall.stores) fun _ _ _ => refl_of R hall.stores

/-! ### Deletions and ticks -/

/-- Removing a quiz moves along what allows it. -/
theorem deleteQuiz (hR : Stores.AllowsRemovals R) (id : String) : (Act.deleteQuiz id).Along R :=
  storing fun _ _ h => hR.deleteQuiz h

/-- So does emptying a bucket. -/
theorem drainBucket (hR : Stores.AllowsRemovals R) (bucket : String) :
    (Act.drainBucket bucket).Along R := by
  intro hall
  refine .drainBucket (fun _ => refl_of R hall.stores) (fun e stores hdrain => ?_)
    fun ids stores hdrain => ?_
  · exact hR.drainBucket hdrain
  · exact hR.drainBucket hdrain

/-- So does a deletion. -/
theorem delete (hR : Stores.AllowsRemovals R) (rules : Rules) (ctx : CallContext)
    (sequence : Int) : (Act.delete rules ctx sequence).Along R := by
  refine (ofExcept _).bind fun sender => locked ((ofExcept _).bind fun id => ?_)
  refine (reading _ _).bind fun quiz? => (found _ _).bind fun quiz => ?_
  exact (ensure _ _).bind fun _ => (deleteQuiz hR id).bind fun _ => note _ _

/-- So does sweeping. -/
theorem sweep (hR : Stores.AllowsRemovals R) (rules : Rules) (tick : Int) (ids : List String) :
    (Act.sweep rules tick ids).Along R := by
  induction ids with
  | nil => exact answer ()
  | cons id ids ih => exact (deleteQuiz hR id).bind fun _ => (publish _ _).bind fun _ => ih

/-- So does a tick. -/
theorem onTick (hR : Stores.AllowsRemovals R) (rules : Rules) (tick : Int) :
    (Act.onTick rules tick).Along R := by
  have hfire : (rules.schedule.fire tick).Along R := by
    refine (ofExcept _).bind fun bucket => (drainBucket hR bucket).bind fun ids => ?_
    exact ite ((note _ _).bind fun _ => answer ids) (answer ids)
  exact locked (hfire.bind fun ids => (sweep hR rules tick ids).bind fun _ => answer ids)

/-- So does a step. -/
theorem step (hR : Stores.AllowsRemovals R) (rules : Rules) : (Act.step rules).Along R := by
  refine (of_stores fun _ => rfl).bind fun tick => (onTick hR rules tick).bind fun ids => ?_
  exact ite ((note _ _).bind fun _ => answer tick) (answer tick)

/-- So do a number of steps. -/
theorem steps (hR : Stores.AllowsRemovals R) (rules : Rules) (seconds : Float) (n : Nat) :
    (Act.steps rules seconds n).Along R := by
  induction n with
  | zero => exact answer ()
  | succ n ih =>
      have hnap : (Act.nap seconds).Along R := of_stores fun _ => rfl
      exact hnap.bind fun _ => (step hR rules).bind fun _ => ih

/-! ### Creations and attempts -/

/-- **A creation** moves along if storing the quiz that the call asks for does, and scheduling it,
moving the counter on by one, and removing it again. -/
theorem create {rules : Rules} {ctx : CallContext} {questions : List Question} {key : Answers}
    {gate : Json.Value}
    (hplace : ∀ {s s' : Stores} {id : String} {quiz : Quiz},
      rules.newQuiz ctx questions key gate = .ok quiz → s.createQuiz id quiz key = .ok s' → R s s')
    (hschedule : ∀ {s s' : Stores} {bucket id : String}, s.appendBucket bucket id = .ok s' → R s s')
    (hcount : ∀ {s s' : Stores} {n : Int}, s.counter = .ok n → IsU64 (n + 1) →
      s.putCounter (n + 1) = .ok s' → R s s')
    (hdelete : ∀ {s s' : Stores} {id : String}, s.deleteQuiz id = .ok s' → R s s') :
    (Act.create rules ctx questions key gate).Along R := by
  intro hall
  refine .bind (.ofExcept (fun _ _ => refl_of R hall.stores) fun quiz hquiz => .locked ?_)
  have hscheduled {bucket id : String} {placed stores : Stores}
      (hplaced : hall.stores.createQuiz id quiz key = .ok placed)
      (happend : placed.appendBucket bucket id = .ok stores) : R hall.stores stores :=
    trans_of R (hplace hquiz hplaced) (hschedule happend)
  -- Whatever goes wrong once the quiz is placed, its removal starts from stores that are related.
  have hundo {id : String} {stores : Stores} {e : Fault} (log : List LogRecord)
      (h : R hall.stores stores) :
      (Act.deleteQuiz id).Ends { hall with stores, log } (Then (fun _ => (throw e : Act Int))
        fun _ after => R hall.stores after.stores) := by
    refine .deleteQuiz (fun _ _ => h) fun stores' hremoved => .fail ?_
    exact trans_of R h (hdelete hremoved)
  refine .enter_next (fun _ _ => refl_of R hall.stores) (fun id placed e hplaced => ?_)
    (fun _ id bucket placed stores log e _ hplaced happend _ => ?_)
    fun n id bucket placed stores stores' events log hn hid hplaced happend hput => ?_
  · exact hundo hall.log (hplace hquiz hplaced)
  · exact hundo log (hscheduled hplaced happend)
  · have hcounter : stores.counter = .ok n := Stores.counter_of_scheduled hn hplaced happend
    exact trans_of R (hscheduled hplaced happend)
      (hcount hcounter (Rules.derive_eq_ok_iff.mp hid).1 hput)

/-- **An attempt** moves along if storing the blend of a rating and a score does. -/
theorem attempt {rules : Rules} {ctx : CallContext} {sequence : Int} {submission : Answers}
    (hsave : ∀ {s s' : Stores} {account : String} {prior : Int} {score : Nat},
      s.rating account = .ok prior → score ≤ maxScore →
        s.saveRating account (Rating.blend prior score) = .ok s' → R s s') :
    (Act.attempt rules ctx sequence submission).Along R := by
  refine (ofExcept _).bind fun sender => locked fun hall => ?_
  refine .attemptBy_of_admits (fun _ _ => refl_of R hall.stores) (fun _ _ _ _ _ _ _ _ _ _ => ?_) ?_
  · exact refl_of R hall.stores
  · intro quiz key prior stores ledger events log statements hadmits _ hrated
    exact hsave hadmits.rating (submission.score_le key) hrated

end Act.Along

/-! ### Requests and runs -/

/-- **A request moves along** what allows removals, if it does so itself in case it is a creation or
an attempt. -/
theorem Request.along {R : Stores → Stores → Prop} [IsPreorder Stores R] (rules : Rules)
    (request : Request) (hR : Stores.AllowsRemovals R)
    (hcreate : ∀ ctx questions key gate, request = .create ctx questions key gate →
      (Act.create rules ctx questions key gate).Along R)
    (hattempt : ∀ ctx sequence submission, request = .attempt ctx sequence submission →
      (Act.attempt rules ctx sequence submission).Along R) : (request.act rules).Along R := by
  cases request with
  | create ctx questions key gate => exact .map _ (hcreate ctx questions key gate rfl)
  | attempt ctx sequence submission => exact .map _ (hattempt ctx sequence submission rfl)
  | delete ctx sequence => exact .map _ (.delete hR rules ctx sequence)
  | tick now => exact .map _ (.onTick hR rules now)
  | advance => exact .map _ (.of_stores fun _ => rfl)
  | step => exact .map _ (.step hR rules)
  | loop seconds n =>
      refine .map _ ((Act.Along.steps hR rules seconds n).rescue fun e => ?_)
      exact (Act.Along.note _ _).bind fun _ => .fail e
  | quiz sequence => exact .map _ ((Act.Along.ofExcept _).bind fun _ => .reading _ _)
  | rating other => exact .map _ (.rating other)
  | latest => exact .map _ (.reading _ _)
  | pending due => exact .map _ ((Act.Along.ofExcept _).bind fun _ => .reading _ _)

namespace Hall

/-- The halls that are **reached** from a hall by requests, one after the other. In between calls
may fall out of order and come back in order at any time. -/
inductive Reached (rules : Rules) (start : Hall) : Hall → Prop
  /-- Nothing has happened yet. -/
  | start : Reached rules start start
  /-- One more request is answered. -/
  | request {hall : Hall} (h : Reached rules start hall) (request : Request) :
      Reached rules start ((request.act rules).run hall).2
  /-- Other calls are out of order from now on. -/
  | disturbed {hall : Hall} (h : Reached rules start hall) (outages : Table Call FaultKind) :
      Reached rules start { hall with outages }

/-- Serving a list of requests leads from a hall that is reached to another one. -/
theorem Reached.serve {rules : Rules} {start hall : Hall} (h : Reached rules start hall)
    (requests : List Request) : Reached rules start (Hall.serve rules hall requests).2 := by
  induction requests generalizing hall with
  | nil => exact h
  | cons request rest ih => exact ih (h.request request)

/-- **Where all requests move along a relation, it leads to every hall that is reached.** -/
theorem Reached.along {R : Stores → Stores → Prop} [IsPreorder Stores R] {rules : Rules}
    {start hall : Hall} (h : Reached rules start hall)
    (hR : ∀ request : Request, (request.act rules).Along R) : R start.stores hall.stores := by
  induction h with
  | start => exact refl_of R start.stores
  | @request hall _ request ih => exact trans_of R ih (hR request hall)
  | disturbed _ _ ih => exact ih

end Hall

/-! ### Slots that are left alone -/

/-- One slot is **the same** in two stores if they agree on it. -/
def Stores.SameAt (slot : Slot) (s s' : Stores) : Prop := s.AgreeOn s' slot

instance (slot : Slot) : IsPreorder Stores (Stores.SameAt slot) where
  refl := fun s => Stores.AgreeOn.refl s slot
  trans := fun _ _ _ h h' => Stores.AgreeOn.trans h h'

/-- An operation **leaves** a slot alone if it reads the same after it as before, in every hall. -/
def Act.Leaves (act : Act α) (slot : Slot) : Prop := act.Along (Stores.SameAt slot)

/-- A slot **lasts** if it outlives all quizzes. -/
inductive Slot.Lasting : Slot → Prop
  /-- The rating of an account. -/
  | rating (account : String) : Lasting (.rating account)
  /-- The counter. -/
  | counter : Lasting .counter

/-- What lasts is not touched by removals. -/
theorem Slot.Lasting.allowsRemovals {slot : Slot} (h : slot.Lasting) :
    Stores.AllowsRemovals (Stores.SameAt slot) := by
  refine ⟨fun hdelete => Stores.agreeOn_deleteQuiz hdelete ?_ ?_,
    fun hdrain => Stores.agreeOn_drainBucket hdrain ?_⟩
  · cases h <;> simp
  · cases h <;> simp
  · cases h <;> simp

/-- A creation leaves ratings alone. -/
theorem Act.Leaves.create (rules : Rules) (ctx : CallContext) (questions : List Question)
    (key : Answers) (gate : Json.Value) (account : String) :
    (Act.create rules ctx questions key gate).Leaves (.rating account) := by
  refine Along.create (fun _ hplaced => ?_) (fun happend => ?_) (fun _ _ hput => ?_)
    fun hdelete => ?_
  · exact Stores.agreeOn_createQuiz hplaced (by simp) (by simp)
  · exact Stores.agreeOn_appendBucket happend (by simp)
  · exact Stores.agreeOn_putCounter hput (by simp)
  · exact Stores.agreeOn_deleteQuiz hdelete (by simp) (by simp)

/-- Whether a request **touches** a slot that lasts: a creation moves the counter, and an attempt
changes a rating. -/
def Request.Touches : Request → Slot → Prop
  | create .., slot => slot = .counter
  | attempt .., slot => ∃ account, slot = .rating account
  | _, _ => False

/-- **A request that does not touch a rating or the counter leaves it alone.** -/
theorem Request.leaves (rules : Rules) {request : Request} {slot : Slot} (hlasting : slot.Lasting)
    (htouches : ¬ request.Touches slot) : (request.act rules).Leaves slot := by
  refine request.along rules hlasting.allowsRemovals ?_ ?_
  · rintro ctx questions key gate rfl
    cases hlasting with
    | rating account => exact Act.Leaves.create rules ctx questions key gate account
    | counter => exact absurd rfl htouches
  · rintro ctx sequence submission rfl
    have hslot (account : String) : slot ≠ .rating account := fun heq => htouches ⟨account, heq⟩
    exact Act.Along.attempt fun _ _ hsave => Stores.agreeOn_saveRating hsave (hslot _)

end QuizHall
