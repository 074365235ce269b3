import QuizHall.Proofs.Hall.Atomicity
import QuizHall.Proofs.Hall.Calls

/-!
# One Call That Is Out of Order

An operation that fails of its own accord leaves everything as it was. It is another matter if it
fails because something has happened to one of the calls that it makes, in the middle of its work.
What has been done up to then stays done unless somebody undoes it.

To speak of the call that fails, an operation is compared with itself: in a hall where all calls are
in order it makes certain calls, and then one of these is put out of order. Up to that call nothing
is different, and there it fails, because only the publisher of events makes up for a call that has
failed. So most calls are harmless: those before the first change, and those of a creation up to the
counter, since its handler takes the quiz out again. Two are not. A creation puts the id of its quiz
into a bucket and counts it after that; if it cannot be counted, the quiz is taken out of the stores
but its id is not taken out of the bucket. And an attempt stores the rating after the payment, which
nobody gives back.

## Main results

* `Act.Stops`: an operation fails where a call is out of order, and does not notice it elsewhere.
  `Stops.create` and `Stops.attempt` say so of creations and attempts.
* `Act.Breaks`: what comes of an operation whose call is out of order.
* `Hall.failing_leaves`: what a creation and an attempt leave behind if one call fails.
* `Hall.outage_not_undone`: two calls whose failure is not undone.
-/

namespace QuizHall

variable {α β : Type}

/-! ### Putting back what was scheduled -/

/-- The two names of a quiz are names of no bucket. -/
theorem KeySpace.appendBucket_deleteQuiz (ks : KeySpace) (id bucket entry : String) :
    (ks.deleteQuiz id).appendBucket bucket entry =
      (ks.appendBucket bucket entry).map fun ks' => ks'.deleteQuiz id := by
  have hquiz : Key.bucket bucket ≠ Key.quiz id :=
    mt (Slot.name_inj (s := .bucket bucket) (t := .quiz id)).mp (by simp)
  have hkey : Key.bucket bucket ≠ Key.solution id :=
    mt (Slot.name_inj (s := .bucket bucket) (t := .solution id)).mp (by simp)
  have hitems : (ks.deleteQuiz id).items (Key.bucket bucket) = ks.items (Key.bucket bucket) := by
    simp only [items, deleteQuiz, removeKey, Table.find?_erase, if_neg hquiz, if_neg hkey]
  simp only [appendBucket, hitems]
  cases ks.items (Key.bucket bucket) with
  | error e => rfl
  | ok items =>
      refine congrArg Except.ok ?_
      simp only [deleteQuiz, removeKey, Table.erase_insert_of_ne _ hquiz,
        Table.erase_insert_of_ne _ hkey]

/-- Removing a quiz and appending to a bucket can change places. -/
theorem Stores.deleteQuiz_appendBucket {s s' : Stores} {bucket entry : String} (id : String)
    (h : s.appendBucket bucket entry = .ok s') :
    s'.deleteQuiz id = (s.deleteQuiz id).bind fun t => t.appendBucket bucket entry := by
  cases hs : s.quizzes with
  | memory m =>
      simp only [appendBucket, hs] at h
      obtain rfl := Except.ok.inj h
      simp only [deleteQuiz, hs]
      rfl
  | redis =>
      simp only [appendBucket, hs] at h
      obtain ⟨hopen, ks, hks, rfl⟩ := writeKeys_eq_ok h
      simp only [deleteQuiz, hs, writeKeys_of_isOpen hopen]
      simp only [appendBucket, writeKeys, Pool.acquire, hopen, Except.bind, Except.map,
        KeySpace.appendBucket_deleteQuiz, hks]

/-- Where something could be appended to a bucket, quizzes are reachable. -/
theorem Stores.reachable_appendBucket {s s' : Stores} {bucket entry : String}
    (h : s.appendBucket bucket entry = .ok s') : s'.Reachable := by
  cases hs : s.quizzes with
  | memory m =>
      simp only [appendBucket, hs] at h
      obtain rfl := Except.ok.inj h
      intro hs'
      cases hs'
  | redis =>
      simp only [appendBucket, hs] at h
      obtain ⟨hopen, ks, -, rfl⟩ := writeKeys_eq_ok h
      exact fun _ => hopen

/-- **A quiz that was stored and scheduled** can be taken out again, but its id stays in the
bucket. -/
theorem Stores.deleteQuiz_scheduled {s placed s' : Stores} {id bucket : String} {quiz : Quiz}
    {key : Answers} (hplaced : s.createQuiz id quiz key = .ok placed)
    (happend : placed.appendBucket bucket id = .ok s') :
    ∃ last, s'.deleteQuiz id = .ok last ∧ s.appendBucket bucket id = .ok last := by
  obtain ⟨last, hlast, -⟩ := (reachable_appendBucket happend).exists_deleteQuiz id
  refine ⟨last, hlast, ?_⟩
  rw [deleteQuiz_appendBucket id happend, deleteQuiz_createQuiz hplaced] at hlast
  exact hlast

/-! ### A call that falls out of order -/

/-- The same hall with one call out of order. -/
def Hall.failing (hall : Hall) (call : Call) (kind : FaultKind) : Hall :=
  { hall with outages := Table.empty.insert call kind }

/-- The call that is out of order raises its fault. -/
theorem Hall.find?_failing_self (hall : Hall) (call : Call) (kind : FaultKind) :
    (hall.failing call kind).outages.find? call = some kind :=
  Table.find?_insert_self ..

/-- All other calls are in order. -/
theorem Hall.find?_failing_of_ne (hall : Hall) {call other : Call} (h : other ≠ call)
    (kind : FaultKind) : (hall.failing call kind).outages.find? other = none :=
  (Table.find?_insert ..).trans (if_neg h)

/-- An operation **stops** at a call if, in every hall in which all calls are in order, making the
call is fatal: where the operation would make the call, it fails once the call is out of order, and
where it would not, it does not notice. -/
structure Act.Stops (act : Act α) (call : Call) (kind : FaultKind) : Prop where
  /-- With the call out of order an operation that makes it fails. -/
  fails : ∀ hall : Hall, (∀ c, hall.outages.find? c = none) → call ∈ act.calls hall →
    ∃ e after, act.run (hall.failing call kind) = (.error e, after)
  /-- An operation that does not make the call does what it does anyway. -/
  same : ∀ hall : Hall, (∀ c, hall.outages.find? c = none) → call ∉ act.calls hall →
    act.run (hall.failing call kind) = ((act.run hall).1, (act.run hall).2.failing call kind)
  /-- The operation does not put calls out of order. -/
  inOrder : ∀ hall : Hall, (∀ c, hall.outages.find? c = none) →
    ∀ c, (act.run hall).2.outages.find? c = none

namespace Act.Stops

variable {call : Call} {kind : FaultKind}

/-- An operation that makes no calls and does the same whichever are in order. -/
theorem of_quiet {act : Act α} (hcalls : ∀ hall, act.calls hall = [])
    (hrun : ∀ hall, act.run (hall.failing call kind) =
      ((act.run hall).1, (act.run hall).2.failing call kind))
    (houtages : ∀ hall, (act.run hall).2.outages = hall.outages) : act.Stops call kind := by
  refine ⟨fun hall _ hmem => ?_, fun hall _ _ => hrun hall, fun hall inOrder c => ?_⟩
  · rw [hcalls hall] at hmem
    cases hmem
  · rw [houtages]
    exact inOrder c

theorem answer (a : α) : (pure a : Act α).Stops call kind :=
  of_quiet (fun _ => rfl) (fun _ => rfl) fun _ => rfl

theorem fail (e : Fault) : (throw e : Act α).Stops call kind :=
  of_quiet (fun _ => rfl) (fun _ => rfl) fun _ => rfl

theorem ofExcept (x : Except Fault α) : (Act.ofExcept x).Stops call kind := by
  cases x with
  | ok a => exact answer a
  | error e => exact fail e

theorem ensure (p : Prop) [Decidable p] (fault : Fault) :
    (Act.ensure p fault).Stops call kind := by
  unfold Act.ensure
  split
  · exact answer ()
  · exact fail fault

theorem found (fault : Fault) (a? : Option α) : (Act.found fault a?).Stops call kind := by
  cases a? with
  | none => exact fail fault
  | some a => exact answer a

theorem note (notice : Notice) (user : String) : (Act.note notice user).Stops call kind :=
  of_quiet (fun _ => rfl) (fun _ => rfl) fun _ => rfl

/-- What follows an operation begins in the hall that the operation leaves behind. It must not save
the operation from a fault once this has made the call. -/
theorem follow {act : Act α} {next : Except Fault α → Act β} (h : act.Stops call kind)
    (hnext : ∀ outcome, (next outcome).Stops call kind)
    (hraises : ∀ hall : Hall, (∀ c, hall.outages.find? c = none) → call ∈ act.calls hall →
      ∀ e after, ∃ e' last, (next (.error e)).run after = (.error e', last)) :
    (act.follow next).Stops call kind := by
  refine ⟨fun hall inOrder hmem => ?_, fun hall inOrder hmem => ?_, fun hall inOrder => ?_⟩
  · rw [calls_follow, List.mem_append] at hmem
    rw [run_follow]
    by_cases hfirst : call ∈ act.calls hall
    · obtain ⟨e, after, hrun⟩ := h.fails hall inOrder hfirst
      rw [hrun]
      exact hraises hall inOrder hfirst e after
    · rw [h.same hall inOrder hfirst]
      exact (hnext _).fails _ (h.inOrder hall inOrder) (hmem.resolve_left hfirst)
  · rw [calls_follow, List.mem_append, not_or] at hmem
    rw [run_follow, run_follow, h.same hall inOrder hmem.1]
    exact (hnext _).same _ (h.inOrder hall inOrder) hmem.2
  · rw [run_follow]
    exact (hnext _).inOrder _ (h.inOrder hall inOrder)

/-- One operation after another. -/
theorem bind {act : Act α} {next : α → Act β} (h : act.Stops call kind)
    (hnext : ∀ a, (next a).Stops call kind) : (act >>= next).Stops call kind := by
  refine h.follow (fun outcome => ?_) fun _ _ _ e after => ⟨e, after, rfl⟩
  cases outcome with
  | ok a => exact hnext a
  | error e => exact fail e

/-- An operation with somebody to handle its faults, who does not save it if it makes the call. -/
theorem rescue {act : Act α} {handler : Fault → Act α} (h : act.Stops call kind)
    (hhandler : ∀ e, (handler e).Stops call kind)
    (hraises : ∀ hall : Hall, (∀ c, hall.outages.find? c = none) → call ∈ act.calls hall →
      ∀ e after, ∃ e' last, (handler e).run after = (.error e', last)) :
    (act.rescue handler).Stops call kind := by
  refine h.follow (fun outcome => ?_) hraises
  cases outcome with
  | ok a => exact answer a
  | error e => exact hhandler e

/-- The lock is of no account. -/
theorem locked {act : Act α} (h : act.Stops call kind) : act.locked.Stops call kind := by
  refine ⟨fun hall inOrder hmem => ?_, fun hall inOrder hmem => ?_, fun hall inOrder => ?_⟩
  · rw [calls_locked] at hmem
    rw [run_locked]
    exact h.fails hall inOrder hmem
  · rw [calls_locked] at hmem
    rw [run_locked, run_locked]
    exact h.same hall inOrder hmem
  · rw [run_locked]
    exact h.inOrder hall inOrder

/-- The tick does not depend on what is in order. -/
theorem clock (next : Int → Act β) (h : ∀ now, (next now).Stops call kind) :
    (get >>= fun hall : Hall => next hall.clock).Stops call kind := by
  refine ⟨fun hall inOrder hmem => ?_, fun hall inOrder hmem => ?_, fun hall inOrder => ?_⟩
  · exact (h hall.clock).fails hall inOrder hmem
  · exact (h hall.clock).same hall inOrder hmem
  · exact (h hall.clock).inOrder hall inOrder

/-! ### Calls -/

/-- A call whose work does not depend on what is in order. -/
theorem writing {c : Call} {f : Hall → Except Fault (α × Hall)}
    (hf : ∀ hall : Hall, f (hall.failing call kind) =
      (f hall).map fun done => (done.1, done.2.failing call kind))
    (houtages : ∀ hall a after, f hall = .ok (a, after) → after.outages = hall.outages) :
    (c.writing f).Stops call kind := by
  refine ⟨fun hall inOrder hmem => ?_, fun hall inOrder hmem => ?_, fun hall inOrder other => ?_⟩
  · rw [Call.calls_writing (inOrder c)] at hmem
    obtain rfl := List.mem_singleton.mp hmem
    exact ⟨_, _, Call.run_writing_of_outage (hall.find?_failing_self call kind) f⟩
  · rw [Call.calls_writing (inOrder c)] at hmem
    have hne : c ≠ call := fun heq => hmem (List.mem_singleton.mpr heq.symm)
    rw [Call.run_writing (hall.find?_failing_of_ne hne kind), Call.run_writing (inOrder c), hf]
    cases f hall with
    | ok done => rfl
    | error e => rfl
  · rw [Call.run_writing (inOrder c)]
    cases hdone : f hall with
    | error e => exact inOrder other
    | ok done =>
        have hsame := houtages hall done.1 done.2 hdone
        rw [← inOrder other, ← hsame]

/-- A call that first finds something out from what is stored and what everybody has. -/
theorem mapped {c : Call} {f : Hall → Except Fault β} {g : Hall → β → α × Hall}
    (hf : ∀ hall : Hall, f (hall.failing call kind) = f hall)
    (hg : ∀ hall b, g (hall.failing call kind) b = ((g hall b).1, (g hall b).2.failing call kind))
    (houtages : ∀ hall b, (g hall b).2.outages = hall.outages) :
    (c.writing fun hall => (f hall).map (g hall)).Stops call kind := by
  refine writing (fun hall => ?_) fun hall a after hdone => ?_
  · rw [hf]
    cases f hall with
    | error e => rfl
    | ok b => exact congrArg Except.ok (hg hall b)
  · cases hb : f hall with
    | error e =>
        rw [hb] at hdone
        cases hdone
    | ok b =>
        rw [hb] at hdone
        rw [← houtages hall b]
        exact congrArg (fun done : α × Hall => done.2.outages) (Except.ok.inj hdone).symm

theorem reading {c : Call} {f : Hall → Except Fault α}
    (hf : ∀ hall : Hall, f (hall.failing call kind) = f hall) : (c.reading f).Stops call kind :=
  mapped hf (fun _ _ => rfl) fun _ _ => rfl

theorem storing (c : Call) (f : Stores → Except Fault Stores) : (c.storing f).Stops call kind :=
  mapped (f := fun hall => f hall.stores) (fun _ => rfl) (fun _ _ => rfl) fun _ _ => rfl

/-- What is sent does not depend on what is in order. -/
theorem send_failing (hall : Hall) (statement : Statement) :
    (hall.failing call kind).send statement = (hall.send statement).failing call kind := by
  simp only [Hall.send, Hall.failing]
  split <;> rfl

theorem outages_send (hall : Hall) (statement : Statement) :
    (hall.send statement).outages = hall.outages := by
  obtain ⟨statements, hsend⟩ := hall.exists_send statement
  rw [hsend]

theorem rating (account : String) : (Act.rating account).Stops call kind :=
  mapped (fun _ => rfl) (fun hall n => congrArg (Prod.mk n) (send_failing hall _))
    fun hall _ => outages_send hall _

theorem saveRating (account : String) (n : Int) : (Act.saveRating account n).Stops call kind :=
  mapped (f := fun hall => hall.stores.saveRating account n) (fun _ => rfl)
    (fun hall stores => congrArg (Prod.mk ()) (send_failing { hall with stores } _))
    fun hall stores => outages_send { hall with stores } _

theorem transfer (source dest : String) (amount : Int) (keepAlive : Bool) :
    (Act.transfer source dest amount keepAlive).Stops call kind :=
  mapped (f := fun hall => hall.ledger.transfer source dest amount keepAlive) (fun _ => rfl)
    (fun _ _ => rfl) fun _ _ => rfl

/-- Publishing an event makes no call but its own, which is not fatal. -/
theorem publish (rules : Rules) (event : Event) (hemit : call ≠ .emit) :
    (Act.publish rules event).Stops call kind := by
  refine rescue (writing (fun hall => ?_) fun hall a after hdone => ?_) (fun _ => note _ _)
    fun hall inOrder hmem => ?_
  · split <;> rfl
  · obtain ⟨-, rfl⟩ := Prod.mk.inj (Except.ok.inj hdone)
    split <;> rfl
  · rw [Act.emit, Call.calls_writing (inOrder .emit)] at hmem
    exact absurd (List.mem_singleton.mp hmem) hemit

/-! ### Operations -/

/-- A payment. -/
theorem pay (payer owner : String) (amount : Int) :
    (Act.pay payer owner amount).Stops call kind := by
  rw [Act.pay]
  split
  · exact answer ()
  · refine (reading fun _ => rfl).bind fun free => (ensure _ _).bind fun _ => ?_
    exact (transfer payer owner amount true).rescue (fun _ => fail _) fun _ _ _ _ _ => ⟨_, _, rfl⟩

/-- The change of a rating. -/
theorem updateRating (account : String) (score : Int) (prior : Int) :
    (Act.updateRating account score (some prior)).Stops call kind := by
  refine (ofExcept _).bind fun _ => (answer prior).bind fun prior => ?_
  exact (saveRating _ _).bind fun _ => (note _ _).bind fun _ => answer _

/-- **An attempt** stops at each of its calls but the one that publishes it. -/
theorem attempt (rules : Rules) (ctx : CallContext) (sequence : Int) (submission : Answers)
    (hemit : call ≠ .emit) : (Act.attempt rules ctx sequence submission).Stops call kind := by
  refine (ofExcept _).bind fun sender => locked ?_
  refine (ofExcept _).bind fun id => (reading fun _ => rfl).bind fun quiz? => ?_
  refine (found _ _).bind fun quiz => (ensure _ _).bind fun _ => ?_
  refine (rating sender).bind fun prior => ?_
  refine (ensure _ _).bind fun _ => (reading fun _ => rfl).bind fun key? => ?_
  refine (found _ _).bind fun key => (pay _ _ _).bind fun _ => ?_
  refine (updateRating sender _ prior).bind fun _ => ?_
  exact (note _ _).bind fun _ => (publish _ _ hemit).bind fun _ => answer _

/-- Whatever is done before a fault is passed on, a fault comes of it. -/
theorem raises (act : Act α) (e : Fault) (hall : Hall) :
    ∃ e' last, (act >>= fun _ => (throw e : Act β)).run hall = (.error e', last) := by
  rw [run_bind]
  cases act.run hall with
  | mk outcome after =>
      cases outcome with
      | ok a => exact ⟨e, after, rfl⟩
      | error e' => exact ⟨e', after, rfl⟩

/-- Placing a quiz. -/
theorem place (sequence : Int) (id : String) (quiz : Quiz) (key : Answers) :
    (Act.place sequence id quiz key).Stops call kind := by
  refine (storing _ _).rescue (fun e => ?_) fun _ _ _ e after => ?_
  · by_cases hkind : e.kind = .alreadyExists
    · simp only [if_pos hkind]
      exact (note _ _).bind fun _ => fail e
    · simp only [if_neg hkind]
      exact (answer ()).bind fun _ => fail e
  · by_cases hkind : e.kind = .alreadyExists
    · simp only [if_pos hkind]
      exact raises _ e after
    · simp only [if_neg hkind]
      exact raises (pure ()) e after

/-- Scheduling a quiz. -/
theorem add (s : Schedule) (now : Int) (id : String) : (s.add now id).Stops call kind :=
  (ofExcept _).bind fun _ => (storing _ _).bind fun _ => (note _ _).bind fun _ => answer _

/-- Scheduling a quiz and counting it. -/
theorem book (rules : Rules) (sequence : Int) (id : String) :
    (Act.book rules sequence id).Stops call kind :=
  clock (fun now => do
    let due ← rules.schedule.add now id
    Act.putCounter sequence
    return due) fun _ => (add _ _ _).bind fun due => (storing _ _).bind fun _ => answer due

/-- The same, undone if it fails. -/
theorem undone (rules : Rules) (sequence : Int) (id : String) :
    ((Act.book rules sequence id).rescue fun fault => do
      Act.deleteQuiz id
      throw fault).Stops call kind :=
  (book rules sequence id).rescue (fun e => (storing _ _).bind fun _ => fail e)
    fun _ _ _ e after => raises _ e after

/-- **A creation** stops at each of its calls but the one that publishes it. -/
theorem create (rules : Rules) (ctx : CallContext) (questions : List Question) (key : Answers)
    (gate : Json.Value) (hemit : call ≠ .emit) :
    (Act.create rules ctx questions key gate).Stops call kind := by
  refine (ofExcept _).bind fun quiz => locked ?_
  refine (reading fun _ => rfl).bind fun n => (ofExcept _).bind fun id => ?_
  refine (place _ _ _ _).bind fun _ => (undone _ _ _).bind fun due => ?_
  exact (note _ _).bind fun _ => (publish _ _ hemit).bind fun _ => answer _

end Act.Stops

/-! ### What is left behind -/

namespace Act

/-- An operation **breaks** at a call with a condition if, should it make the call from a hall in
which all calls are in order, what comes of it once the call is out of order meets the condition. -/
def Breaks (act : Act α) (call : Call) (kind : FaultKind) (hall : Hall)
    (q : Except Fault α → Hall → Prop) : Prop :=
  (∀ c, hall.outages.find? c = none) → call ∈ act.calls hall → act.Ends (hall.failing call kind) q

/-- What the first of two operations has to end in, if it does not make the call itself, for both to
break at the call. -/
abbrev Onwards (next : α → Act β) (call : Call) (kind : FaultKind)
    (q : Except Fault β → Hall → Prop) : Except Fault α → Hall → Prop
  | .ok a, after => (next a).Breaks call kind after q
  | .error _, _ => True

namespace Breaks

variable {call : Call} {kind : FaultKind} {hall : Hall}

/-- The call is made by the second of two operations. -/
theorem bind {act : Act α} {next : α → Act β} {q : Except Fault β → Hall → Prop}
    (hstops : act.Stops call kind) (hnot : call ∉ act.calls hall)
    (h : act.Ends hall (Onwards next call kind q)) : (act >>= next).Breaks call kind hall q := by
  intro inOrder hmem
  obtain ⟨a, after, hrun, hmem⟩ := (mem_calls_bind.mp hmem).resolve_left hnot
  have hsame := hstops.same hall inOrder hnot
  have hafter := hstops.inOrder hall inOrder
  rw [Ends, hrun] at h
  rw [hrun] at hsame hafter
  rw [Ends, run_bind, hsame]
  exact h hafter hmem

/-- The call is not made by what follows an operation but by the operation, which fails. -/
theorem follow {act : Act α} {next : Except Fault α → Act β} {q : Except Fault β → Hall → Prop}
    (hstops : act.Stops call kind) (hnot : ∀ outcome after, call ∉ (next outcome).calls after)
    (h : act.Breaks call kind hall fun outcome after =>
      ∀ e, outcome = .error e → (next (.error e)).Ends after q) :
    (act.follow next).Breaks call kind hall q := by
  intro inOrder hmem
  rw [calls_follow, List.mem_append] at hmem
  have hfirst : call ∈ act.calls hall := hmem.resolve_right (hnot _ _)
  obtain ⟨e, after, hrun⟩ := hstops.fails hall inOrder hfirst
  have hafter := h inOrder hfirst
  rw [Ends, hrun] at hafter
  rw [Ends, run_follow, hrun]
  exact hafter e rfl

/-- The call is made by the first of two operations, which fails. -/
theorem bind_of_notMem {act : Act α} {next : α → Act β} {q : Except Fault β → Hall → Prop}
    (hstops : act.Stops call kind) (hnot : ∀ a after, call ∉ (next a).calls after)
    (h : act.Breaks call kind hall fun outcome after =>
      ∀ e, outcome = .error e → q (.error e) after) :
    (act >>= next).Breaks call kind hall q := by
  refine follow hstops (fun outcome after => ?_) h
  cases outcome with
  | ok a => exact hnot a after
  | error e => exact List.not_mem_nil

/-- The call is made by an operation whose faults somebody handles. -/
theorem rescue {act : Act α} {handler : Fault → Act α} {q : Except Fault α → Hall → Prop}
    (hstops : act.Stops call kind) (hnot : ∀ e after, call ∉ (handler e).calls after)
    (h : act.Breaks call kind hall fun outcome after =>
      ∀ e, outcome = .error e → (handler e).Ends after q) :
    (act.rescue handler).Breaks call kind hall q := by
  refine follow hstops (fun outcome after => ?_) h
  cases outcome with
  | ok a => exact List.not_mem_nil
  | error e => exact hnot e after

theorem locked {act : Act α} {q : Except Fault α → Hall → Prop}
    (h : act.Breaks call kind hall q) : act.locked.Breaks call kind hall q := by
  intro inOrder hmem
  rw [calls_locked] at hmem
  exact .locked (h inOrder hmem)

theorem clock (next : Int → Act β) {q : Except Fault β → Hall → Prop}
    (h : (next hall.clock).Breaks call kind hall q) :
    (get >>= fun hall : Hall => next hall.clock).Breaks call kind hall q := h

/-- The call itself raises its fault and does nothing. -/
theorem writing {f : Hall → Except Fault (α × Hall)} {q : Except Fault α → Hall → Prop}
    (h : q (.error (.outage call kind)) (hall.failing call kind)) :
    (call.writing f).Breaks call kind hall q := by
  intro inOrder hmem
  rw [Ends, Call.run_writing_of_outage (hall.find?_failing_self call kind)]
  exact h

/-! ### The payment that stays -/

/-- **An attempt whose rating cannot be stored** has been paid for by then. -/
theorem attempt_ratingSave {rules : Rules} {ctx : CallContext} {sequence : Int}
    {submission : Answers} {q : Except Fault Nat → Hall → Prop}
    (h : ∀ e sender quiz key prior ledger log statements, ctx.sender = .ok sender →
      hall.Admits rules sender sequence quiz key prior →
        Paid hall.ledger sender quiz.owner (cost rules (submission.score key)) ledger →
          q (.error e) (Hall.failing { hall with ledger, log, statements } .ratingSave kind)) :
    (Act.attempt rules ctx sequence submission).Breaks .ratingSave kind hall q := by
  refine .bind (.ofExcept _) (by simp) (.ofExcept (fun _ _ => trivial) fun sender hsender => ?_)
  refine .locked (.bind (.ofExcept _) (by simp) (.ofExcept (fun _ _ => trivial) fun id hid => ?_))
  refine .bind (.reading fun _ => rfl) (Call.notMem_writing (by decide))
    (.quiz? (fun _ => trivial) fun quiz? hquiz => ?_)
  refine .bind (.found _ _) (by simp) (.found (fun _ => trivial) fun quiz hfound => ?_)
  refine .bind (.ensure _ _) (by simp) (.ensure (fun _ => trivial) fun hother => ?_)
  refine .bind (.rating sender) (Call.notMem_writing (by decide))
    (.rating (fun _ => trivial) fun prior statements hprior => ?_)
  refine .bind (.ensure _ _) (by simp) (.ensure (fun _ => trivial) fun hgate => ?_)
  refine .bind (.reading fun _ => rfl) (Call.notMem_writing (by decide))
    (.key? (fun _ => trivial) fun key? hkey => ?_)
  refine .bind (.found _ _) (by simp) (.found (fun _ => trivial) fun key hfoundKey => ?_)
  have hadmits : hall.Admits rules sender sequence quiz key prior :=
    ⟨⟨id, hid, hfound ▸ hquiz, hfoundKey ▸ hkey⟩, hother, hprior, hgate⟩
  refine .bind (.pay _ _ _) (notMem_calls_pay (by decide) (by decide))
    (.pay (fun _ => trivial) fun ledger log hpaid => ?_)
  refine .bind_of_notMem (.updateRating _ _ _) (fun _ _ => notMem_calls_announced (by decide)) ?_
  refine .bind (.ofExcept _) (by simp) (.ofExcept (fun _ _ => trivial) fun _ _ => ?_)
  refine .bind (.answer prior) (by simp) (.answer ?_)
  refine .bind_of_notMem (.saveRating _ _) (by simp) (.writing ?_)
  intro e he e' he'
  exact h _ sender quiz key prior ledger log statements hsender hadmits hpaid

/-! ### The id that stays -/

/-- **A creation whose number cannot be counted** has its quiz taken out again, but not its id. -/
theorem create_counterPut {rules : Rules} {ctx : CallContext} {questions : List Question}
    {key : Answers} {gate : Json.Value} {q : Except Fault Int → Hall → Prop}
    (h : ∀ e n id bucket stores log, hall.stores.counter = .ok n → rules.derive (n + 1) = .ok id →
      rules.derive (hall.clock + rules.delay) = .ok bucket →
        hall.stores.appendBucket bucket id = .ok stores →
          q (.error e) (Hall.failing { hall with stores, log } .counterPut kind)) :
    (Act.create rules ctx questions key gate).Breaks .counterPut kind hall q := by
  refine .bind (.ofExcept _) (by simp) (.ofExcept (fun _ _ => trivial) fun quiz _ => .locked ?_)
  refine .bind (.reading fun _ => rfl) (Call.notMem_writing (by decide))
    (.counter (fun _ => trivial) fun n hn => ?_)
  refine .bind (.ofExcept _) (by simp) (.ofExcept (fun _ _ => trivial) fun id hid => ?_)
  refine .bind (.place _ _ _ _) (notMem_calls_place (by decide))
    (.place (fun _ _ => trivial) fun placed hplaced => ?_)
  refine .bind_of_notMem (.undone _ _ _) (fun _ _ => notMem_calls_announced (by decide)) ?_
  refine .rescue (.book _ _ _) (fun _ _ => notMem_calls_undo (by decide)) ?_
  refine .clock (fun now => do
    let due ← rules.schedule.add now id
    putCounter (n + 1)
    return due) ?_
  refine .bind (.add _ _ _) (notMem_calls_add (by decide))
    (.add_due (fun _ => trivial) fun bucket stores log hdue happend => ?_)
  refine .bind_of_notMem (.storing _ _) (by simp) (.writing ?_)
  intro e he e' he'
  obtain ⟨last, hundo, hleft⟩ := Stores.deleteQuiz_scheduled hplaced happend
  refine .bind (.deleteQuiz (fun e hfail => ?_) fun stores' hstores => ?_)
  · cases (hfail (Hall.find?_failing_of_ne _ (by decide) _)).symm.trans hundo
  · obtain rfl := Except.ok.inj (hstores.symm.trans hundo)
    exact .fail fun e _ => h e n id bucket stores' log hn hid hdue hleft

end Breaks

end Act

namespace Hall

/-- What stays of a creation whose number could not be counted: the id of its quiz is **stranded**
in the bucket of the tick at which the quiz would have fallen due. -/
structure Stranded (rules : Rules) (before after : Hall) : Prop where
  /-- One bucket has got the id of the next number. -/
  stores : ∃ n id bucket, before.stores.counter = .ok n ∧ rules.derive (n + 1) = .ok id ∧
    rules.derive (before.clock + rules.delay) = .ok bucket ∧
      before.stores.appendBucket bucket id = .ok after.stores
  /-- All balances are the same. -/
  ledger : after.ledger = before.ledger
  /-- The tick is the same. -/
  clock : after.clock = before.clock
  /-- The same events are kept. -/
  events : after.events = before.events
  /-- The same calls are out of order. -/
  outages : after.outages = before.outages

/-- What stays of an attempt whose rating could not be stored: the sender is **charged** for it. -/
structure Charged (rules : Rules) (ctx : CallContext) (sequence : Int) (submission : Answers)
    (before after : Hall) : Prop where
  /-- The sender was admitted and has paid the owner for the wrong answers. -/
  ledger : ∃ sender quiz key prior, ctx.sender = .ok sender ∧
    before.Admits rules sender sequence quiz key prior ∧
      Paid before.ledger sender quiz.owner (Act.cost rules (submission.score key)) after.ledger
  /-- Quizzes, keys, buckets, the counter and ratings are the same. -/
  stores : after.stores = before.stores
  /-- The tick is the same. -/
  clock : after.clock = before.clock
  /-- The same events are kept. -/
  events : after.events = before.events
  /-- The same calls are out of order. -/
  outages : after.outages = before.outages

/-- **One call out of order.** A creation or an attempt that would make the call fails, and leaves
the hall untouched but in two cases. A creation that cannot count its number leaves the id of its
quiz in a bucket, and an attempt that cannot store its rating has been paid for. -/
theorem failing_leaves (rules : Rules) (hall : Hall) (call : Call) (kind : FaultKind)
    (inOrder : ∀ c, hall.outages.find? c = none) (hemit : call ≠ .emit)
    (hundo : call ≠ .quizDelete) :
    (∀ ctx questions key gate, call ∈ (Act.create rules ctx questions key gate).calls hall →
      ∃ e after, (Act.create rules ctx questions key gate).run (hall.failing call kind) =
          (.error e, after) ∧
        (call ≠ .counterPut → (hall.failing call kind).Untouched after) ∧
        (call = .counterPut → (hall.failing call kind).Stranded rules after)) ∧
    ∀ ctx sequence submission, call ∈ (Act.attempt rules ctx sequence submission).calls hall →
      ∃ e after, (Act.attempt rules ctx sequence submission).run (hall.failing call kind) =
          (.error e, after) ∧
        (call ≠ .ratingSave → (hall.failing call kind).Untouched after) ∧
        (call = .ratingSave →
          (hall.failing call kind).Charged rules ctx sequence submission after) := by
  have hsame := Untouched.refl (hall.failing call kind)
  refine ⟨fun ctx questions key gate hmem => ?_, fun ctx sequence submission hmem => ?_⟩
  · have hstops : (Act.create rules ctx questions key gate).Stops call kind :=
      .create rules ctx questions key gate hemit
    obtain ⟨e, after, hrun⟩ := hstops.fails hall inOrder hmem
    refine ⟨e, after, hrun, fun hcounts => ?_, ?_⟩
    · have hends : (Act.create rules ctx questions key gate).Ends (hall.failing call kind)
          (hall.failing call kind).Clean :=
        .bind (.ofExcept (fun _ _ => hsame) fun quiz _ => .locked (ends_enter_of rules quiz key
          (hall.find?_failing_of_ne hundo.symm kind) (hall.find?_failing_of_ne hcounts.symm kind)))
      exact failsCleanly_of_ends hends e after hrun
    · rintro rfl
      have hends : (Act.create rules ctx questions key gate).Ends (hall.failing .counterPut kind)
          fun _ after => (hall.failing .counterPut kind).Stranded rules after :=
        Act.Breaks.create_counterPut (fun _ n id bucket stores log hn hid hdue happend =>
          ⟨⟨n, id, bucket, hn, hid, hdue, happend⟩, rfl, rfl, rfl, rfl⟩) inOrder hmem
      rw [Act.Ends, hrun] at hends
      exact hends
  · have hstops : (Act.attempt rules ctx sequence submission).Stops call kind :=
      .attempt rules ctx sequence submission hemit
    obtain ⟨e, after, hrun⟩ := hstops.fails hall inOrder hmem
    refine ⟨e, after, hrun, fun hsaves => ?_, ?_⟩
    · have hends : (Act.attempt rules ctx sequence submission).Ends (hall.failing call kind)
          (hall.failing call kind).Clean :=
        .bind (.ofExcept (fun _ _ => hsame) fun sender _ => .locked (ends_attemptBy_of rules sender
          sequence submission (hall.find?_failing_of_ne hsaves.symm kind)))
      exact failsCleanly_of_ends hends e after hrun
    · rintro rfl
      have hends : (Act.attempt rules ctx sequence submission).Ends
          (hall.failing .ratingSave kind) fun _ after =>
            (hall.failing .ratingSave kind).Charged rules ctx sequence submission after :=
        Act.Breaks.attempt_ratingSave
          (fun _ sender quiz key prior ledger log statements hsender hadmits hpaid =>
            ⟨⟨sender, quiz, key, prior, hsender, ⟨hadmits.stored, hadmits.other, hadmits.rating,
              hadmits.gate⟩, hpaid⟩, rfl, rfl, rfl, rfl⟩) inOrder hmem
      rw [Act.Ends, hrun] at hends
      exact hends

/-- A hall with a first quiz, in which a guest has a hundred tokens. -/
def withGuest : Hall :=
  (serve (Rules.ofSettings default asCharacters true)
    (ofSettings default { balances := Table.ofList [("guest", 100)] }) [openQuiz]).2

/-- Another creation of a quiz. -/
def secondCreation : Act Int :=
  Act.create (Rules.ofSettings default asCharacters true) ⟨some "owner"⟩ (List.replicate 5 default)
    firstOptions (.int 0)

/-- An attempt of the guest in which the last answer is wrong. -/
def guestAttempt : Act Nat :=
  Act.attempt (Rules.ofSettings default asCharacters true) ⟨some "guest"⟩ 1
    { firstOptions with answer5 := Fin.last 255 }

/-- A bucket or a transfer that is out of order leaves nothing behind. The counter and the ratings
do. -/
theorem failing_leaves_of_four_calls :
    (∀ call, withGuest.outages.find? call = none) ∧
    (.bucketAppend ∈ secondCreation.calls withGuest ∧
      ∃ e after, secondCreation.run (withGuest.failing .bucketAppend .connection) =
        (.error e, after) ∧ (withGuest.failing .bucketAppend .connection).Untouched after) ∧
    (.counterPut ∈ secondCreation.calls withGuest ∧
      ∃ e after, secondCreation.run (withGuest.failing .counterPut .connection) =
        (.error e, after) ∧ (withGuest.failing .counterPut .connection).Stranded
          (Rules.ofSettings default asCharacters true) after) ∧
    (.transfer ∈ guestAttempt.calls withGuest ∧
      ∃ e after, guestAttempt.run (withGuest.failing .transfer .connection) =
        (.error e, after) ∧ (withGuest.failing .transfer .connection).Untouched after) ∧
    (.ratingSave ∈ guestAttempt.calls withGuest ∧
      ∃ e after, guestAttempt.run (withGuest.failing .ratingSave .connection) =
        (.error e, after) ∧ (withGuest.failing .ratingSave .connection).Charged
          (Rules.ofSettings default asCharacters true) ⟨some "guest"⟩ 1
            { firstOptions with answer5 := Fin.last 255 } after) := by
  have inOrder : ∀ call, withGuest.outages.find? call = none := fun _ => rfl
  have h (call : Call) := failing_leaves (Rules.ofSettings default asCharacters true) withGuest call
    .connection inOrder
  have hcreate (call : Call) (hmem : call ∈ secondCreation.calls withGuest) (hemit : call ≠ .emit)
      (hundo : call ≠ .quizDelete) := (h call hemit hundo).1 _ _ _ _ hmem
  have hattempt (call : Call) (hmem : call ∈ guestAttempt.calls withGuest) (hemit : call ≠ .emit)
      (hundo : call ≠ .quizDelete) := (h call hemit hundo).2 _ _ _ hmem
  refine ⟨inOrder, ⟨by decide, ?_⟩, ⟨by decide, ?_⟩, ⟨by decide, ?_⟩, ⟨by decide, ?_⟩⟩
  · obtain ⟨e, after, hrun, hsame, -⟩ := hcreate .bucketAppend (by decide) (by decide) (by decide)
    exact ⟨e, after, hrun, hsame (by decide)⟩
  · obtain ⟨e, after, hrun, -, hleft⟩ := hcreate .counterPut (by decide) (by decide) (by decide)
    exact ⟨e, after, hrun, hleft rfl⟩
  · obtain ⟨e, after, hrun, hsame, -⟩ := hattempt .transfer (by decide) (by decide) (by decide)
    exact ⟨e, after, hrun, hsame (by decide)⟩
  · obtain ⟨e, after, hrun, -, hleft⟩ := hattempt .ratingSave (by decide) (by decide) (by decide)
    exact ⟨e, after, hrun, hleft rfl⟩

/-- **Two calls that fail are not undone.** In memory a creation that cannot count its number leaves
the id of a quiz in a bucket that had one id, and an attempt that cannot store its rating leaves the
guest ten tokens short. -/
theorem outage_not_undone :
    (∃ bucket first second, (Rules.ofSettings default asCharacters true).derive
        (Rules.ofSettings default asCharacters true).delay = .ok bucket ∧
      withGuest.stores.bucket bucket = .ok [first] ∧
      .counterPut ∈ secondCreation.calls withGuest ∧
      ∃ e after, secondCreation.run (withGuest.failing .counterPut .connection) =
        (.error e, after) ∧ after.stores.bucket bucket = .ok [first, second]) ∧
    withGuest.ledger.balance "guest" = 100 ∧
    .ratingSave ∈ guestAttempt.calls withGuest ∧
    ∃ e after, guestAttempt.run (withGuest.failing .ratingSave .connection) = (.error e, after) ∧
      after.ledger.balance "guest" = 90 := by
  refine ⟨⟨_, _, _, rfl, rfl, by decide, _, _, rfl, rfl⟩, rfl, by decide, _, _, rfl, rfl⟩

end Hall

end QuizHall
