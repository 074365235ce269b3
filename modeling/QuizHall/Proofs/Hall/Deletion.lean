import QuizHall.Hall.TickLoop
import QuizHall.Proofs.Hall.View

/-!
# Deleting Quizzes

What the two ends of a quiz do to a view: the deletion by its owner, and the tick at which it falls
due. A tick removes its bucket and then every quiz whose id was in it; ids that lead nowhere do no
harm. The loop over the ticks is taken apart into single ticks here.

## Main results

* `Yields.delete`: the deletion by the owner.
* `Yields.onTick`, `Yields.step`: one tick.
* `Yields.steps`, `Yields.loop`: a number of ticks.
-/

namespace QuizHall

/-- **What deleting a quiz does** to a view. -/
inductive Deleted (rules : Rules) (ctx : CallContext) (sequence : Int) (v : View) :
    Except Fault Unit → View → Prop
  /-- The call is refused. -/
  | refused (e : Fault) : Deleted rules ctx sequence v (.error e) v
  /-- The quiz of the caller is removed with its key. -/
  | done {id : String} {quiz : Quiz} (hsender : ctx.sender = .ok quiz.owner)
      (hid : rules.derive sequence = .ok id) (hquiz : v.contents.quizzes.find? id = some quiz)
      (log : List LogRecord) :
      Deleted rules ctx sequence v (.ok ()) { v with contents := v.contents.withoutQuiz id, log }

/-- **What a tick does** to a view. -/
inductive Fired (rules : Rules) (tick : Int) (v : View) : Except Fault (List String) → View → Prop
  /-- The tick has no bucket. -/
  | refused {e : Fault} (htick : rules.derive tick = .error e) : Fired rules tick v (.error e) v
  /-- The bucket of the tick is removed with the quizzes in it. Every id in it is announced. -/
  | done {bucket : String} (htick : rules.derive tick = .ok bucket) (log : List LogRecord) :
      Fired rules tick v (.ok (v.contents.bucket bucket))
        { v with
          contents := v.contents.expiring bucket
          events := v.events ++
            rules.kept (List.replicate (v.contents.bucket bucket).length (.deleted tick))
          log }

/-- **What a step does** to a view: the clock moves on, and the new tick fires. -/
inductive Stepped (rules : Rules) (v : View) : Except Fault Int → View → Prop
  /-- The new tick has no bucket. -/
  | refused {e : Fault} {v' : View}
      (h : Fired rules (v.clock + 1) { v with clock := v.clock + 1 } (.error e) v') :
      Stepped rules v (.error e) v'
  /-- The new tick has fired. -/
  | done {ids : List String} {v' : View}
      (h : Fired rules (v.clock + 1) { v with clock := v.clock + 1 } (.ok ids) v')
      (log : List LogRecord) :
      Stepped rules v (.ok (v.clock + 1)) { v' with log }

/-- **What a number of steps does** to a view: one comes after the other, until one fails. -/
inductive Looped (rules : Rules) : Nat → View → Except Fault Unit → View → Prop
  /-- No step is left. -/
  | done (v : View) : Looped rules 0 v (.ok ()) v
  /-- A step fails. -/
  | broken {n : Nat} {v v' : View} {e : Fault} (naps : List Nap)
      (h : Stepped rules { v with naps } (.error e) v') : Looped rules (n + 1) v (.error e) v'
  /-- A step is made, and the others follow. -/
  | more {n : Nat} {v v' v'' : View} {tick : Int} {outcome : Except Fault Unit} (naps : List Nap)
      (h : Stepped rules { v with naps } (.ok tick) v') (hrest : Looped rules n v' outcome v'') :
      Looped rules (n + 1) v outcome v''

/-! ### Where the clock stands -/

/-- The clock stands still while a quiz is deleted. -/
theorem Deleted.clock {rules : Rules} {ctx : CallContext} {sequence : Int} {v v' : View}
    {outcome : Except Fault Unit} (h : Deleted rules ctx sequence v outcome v') :
    v'.clock = v.clock := by
  cases h <;> rfl

/-- The clock stands still while a tick fires. -/
theorem Fired.clock {rules : Rules} {tick : Int} {v v' : View}
    {outcome : Except Fault (List String)} (h : Fired rules tick v outcome v') :
    v'.clock = v.clock := by
  cases h <;> rfl

/-- A step moves the clock on by one tick, whether the new tick fires or not. -/
theorem Stepped.clock {rules : Rules} {v v' : View} {outcome : Except Fault Int}
    (h : Stepped rules v outcome v') : v'.clock = v.clock + 1 := by
  cases h with
  | refused hfired => exact hfired.clock
  | done hfired log => exact hfired.clock

/-- A number of steps never move the clock back. -/
theorem Looped.clock_le {rules : Rules} {n : Nat} {v v' : View} {outcome : Except Fault Unit}
    (h : Looped rules n v outcome v') : v.clock ≤ v'.clock := by
  induction h with
  | done v => exact Int.le_refl v.clock
  | @broken n v v' e naps hstepped =>
      have hclock : v'.clock = v.clock + 1 := hstepped.clock
      omega
  | @more n v v' v'' tick outcome naps hstepped _ ih =>
      have hclock : v'.clock = v.clock + 1 := hstepped.clock
      omega

/-! ### What the ticks publish -/

/-- A tick publishes nothing but deletions. -/
theorem Fired.events {rules : Rules} {tick : Int} {v v' : View}
    {outcome : Except Fault (List String)} (h : Fired rules tick v outcome v') :
    ∃ ticks : List Int, v'.events = v.events ++ ticks.map .deleted := by
  cases h with
  | refused htick => exact ⟨[], (List.append_nil v.events).symm⟩
  | @done bucket htick log =>
      cases hkeeps : rules.keepsEvents with
      | true =>
          refine ⟨List.replicate (v.contents.bucket bucket).length tick, ?_⟩
          rw [Rules.kept_eq hkeeps, List.map_replicate]
      | false =>
          refine ⟨[], ?_⟩
          rw [Rules.kept, hkeeps]
          rfl

/-! ### What is lost -/

/-- From one view to another a hall **loses** no more than quizzes, and publishes no more than
deletions. -/
structure View.Loses (v v' : View) : Prop where
  /-- A quiz that is there was there. -/
  quizzes : ∀ id quiz, v'.contents.quizzes.find? id = some quiz →
    v.contents.quizzes.find? id = some quiz
  /-- The counter stands still. -/
  counter : v'.contents.counter = v.contents.counter
  /-- All ratings are the same. -/
  ratings : v'.contents.ratings = v.contents.ratings
  /-- All balances are the same. -/
  ledger : v'.ledger = v.ledger
  /-- Whatever is published is a deletion. -/
  events : ∃ ticks : List Int, v'.events = v.events ++ ticks.map .deleted

theorem View.Loses.refl (v : View) : v.Loses v :=
  ⟨fun _ _ h => h, rfl, rfl, rfl, [], (List.append_nil v.events).symm⟩

theorem View.Loses.trans {v v' v'' : View} (h : v.Loses v') (h' : v'.Loses v'') : v.Loses v'' := by
  refine ⟨fun id quiz hquiz => h.quizzes id quiz (h'.quizzes id quiz hquiz),
    h'.counter.trans h.counter, h'.ratings.trans h.ratings, h'.ledger.trans h.ledger, ?_⟩
  obtain ⟨ticks, hticks⟩ := h.events
  obtain ⟨ticks', hticks'⟩ := h'.events
  exact ⟨ticks ++ ticks', by rw [hticks', hticks, List.map_append, List.append_assoc]⟩

/-- What the clock and the waits were, and what is in the log, is of no account. -/
theorem View.Loses.timed {v v' : View} {clock : Int} {naps : List Nap}
    (h : View.Loses { v with clock, naps } v') (log : List LogRecord) :
    v.Loses { v' with log } :=
  ⟨h.quizzes, h.counter, h.ratings, h.ledger, h.events⟩

/-- A deletion loses one quiz, or nothing. -/
theorem Deleted.loses {rules : Rules} {ctx : CallContext} {sequence : Int} {v v' : View}
    {outcome : Except Fault Unit} (h : Deleted rules ctx sequence v outcome v') : v.Loses v' := by
  cases h with
  | refused e => exact .refl v
  | @done id quiz hsender hid hquiz log =>
      refine ⟨fun id' quiz' hfind => ?_, rfl, rfl, rfl, [], (List.append_nil v.events).symm⟩
      have herase := Table.find?_erase v.contents.quizzes id id'
      by_cases hid' : id' = id
      · rw [if_pos hid'] at herase
        exact absurd (herase.symm.trans hfind) (by simp)
      · rw [if_neg hid'] at herase
        exact herase.symm.trans hfind

/-- A tick loses the quizzes of its bucket. -/
theorem Fired.loses {rules : Rules} {tick : Int} {v v' : View}
    {outcome : Except Fault (List String)} (h : Fired rules tick v outcome v') : v.Loses v' := by
  have hevents := h.events
  cases h with
  | refused htick => exact .refl v
  | @done bucket htick log =>
      have hrest := Contents.foldl_withoutQuiz (v.contents.bucket bucket)
        (v.contents.withoutBucket bucket)
      refine ⟨fun id quiz hfind => ?_, hrest.2.1, hrest.2.2, rfl, hevents⟩
      have hexpiring := v.contents.quizzes_expiring bucket id
      split at hexpiring
      · exact absurd (hexpiring.symm.trans hfind) (by simp)
      · exact hexpiring.symm.trans hfind

/-- A step loses what its tick loses. -/
theorem Stepped.loses {rules : Rules} {v v' : View} {outcome : Except Fault Int}
    (h : Stepped rules v outcome v') : v.Loses v' := by
  cases h with
  | refused hfired => exact hfired.loses.timed _
  | done hfired log => exact hfired.loses.timed log

/-- A number of steps lose what each of them loses. -/
theorem Looped.loses {rules : Rules} {n : Nat} {v v' : View} {outcome : Except Fault Unit}
    (h : Looped rules n v outcome v') : v.Loses v' := by
  induction h with
  | done v => exact .refl v
  | broken naps hstepped => exact hstepped.loses.timed _
  | more naps hstepped hrest ih => exact (hstepped.loses.timed _).trans ih

namespace Act.Yields

variable {v : View}

/-! ### The deletion by the owner -/

/-- Under the lock a quiz is deleted by its owner. -/
theorem deleteBy {rules : Rules} {sequence : Int} {id : String} {quiz : Quiz}
    (hid : rules.derive sequence = .ok id) (hquiz : v.contents.quizzes.find? id = some quiz) :
    ∃ log, (Act.deleteBy rules quiz.owner sequence).Yields v (.ok ())
      { v with contents := v.contents.withoutQuiz id, log } :=
  ⟨_, (ofExcept hid v).bind ((quiz? id v).bind ((found hquiz _ v).bind ((ensure rfl _ v).bind
    ((deleteQuiz id v).bind (note (.removed sequence) quiz.owner _)))))⟩

/-- Under the lock nobody deletes the quiz of somebody else. -/
theorem deleteBy_notOwner {rules : Rules} {sequence : Int} {id sender : String} {quiz : Quiz}
    (hid : rules.derive sequence = .ok id) (hquiz : v.contents.quizzes.find? id = some quiz)
    (hne : sender ≠ quiz.owner) :
    (Act.deleteBy rules sender sequence).Yields v (.error (.notOwner sequence sender)) v :=
  (ofExcept hid v).bind ((quiz? id v).bind ((found hquiz _ v).bind
    (ensure_error hne _ v).bind_error))

/-- Under the lock nobody deletes a quiz that is not there. -/
theorem deleteBy_missing {rules : Rules} {sequence : Int} {id : String}
    (hid : rules.derive sequence = .ok id) (hquiz : v.contents.quizzes.find? id = none)
    (sender : String) :
    (Act.deleteBy rules sender sequence).Yields v (.error (.noQuiz sequence)) v :=
  (ofExcept hid v).bind ((quiz? id v).bind (found_none hquiz _ v).bind_error)

/-- Nobody deletes a quiz that is not there. -/
theorem delete_missing {rules : Rules} {ctx : CallContext} {sequence : Int} {id sender : String}
    (hsender : ctx.sender = .ok sender) (hid : rules.derive sequence = .ok id)
    (hquiz : v.contents.quizzes.find? id = none) :
    (Act.delete rules ctx sequence).Yields v (.error (.noQuiz sequence)) v :=
  (ofExcept hsender v).bind (deleteBy_missing hid hquiz sender).locked

/-- **Deleting a quiz** removes the quiz of the caller, or does nothing. -/
theorem delete (rules : Rules) (ctx : CallContext) (sequence : Int) (v : View) :
    ∃ outcome v', (Act.delete rules ctx sequence).Yields v outcome v' ∧
      Deleted rules ctx sequence v outcome v' := by
  cases hsender : ctx.sender with
  | error e => exact ⟨_, _, (ofExcept hsender v).bind_error, .refused e⟩
  | ok sender =>
      cases hid : rules.derive sequence with
      | error e =>
          exact ⟨_, _, (ofExcept hsender v).bind (locked (ofExcept hid v).bind_error), .refused e⟩
      | ok id =>
          cases hquiz : v.contents.quizzes.find? id with
          | none =>
              exact ⟨_, _, delete_missing hsender hid hquiz, .refused _⟩
          | some quiz =>
              by_cases howner : sender = quiz.owner
              · obtain ⟨log, hdelete⟩ := deleteBy hid hquiz
                rw [howner] at hsender
                exact ⟨_, _, (ofExcept hsender v).bind hdelete.locked,
                  .done hsender hid hquiz log⟩
              · have hdelete := deleteBy_notOwner hid hquiz howner
                exact ⟨_, _, (ofExcept hsender v).bind hdelete.locked, .refused _⟩

/-! ### One tick -/

/-- Sweeping removes the quiz of every id and publishes a deletion for each. -/
theorem sweep (rules : Rules) (tick : Int) (ids : List String) (v : View) :
    ∃ log, (Act.sweep rules tick ids).Yields v (.ok ())
      { v with
        contents := ids.foldl Contents.withoutQuiz v.contents
        events := v.events ++ rules.kept (List.replicate ids.length (.deleted tick))
        log } := by
  induction ids generalizing v with
  | nil =>
      have hkept : v.events ++ rules.kept [] = v.events := by
        rw [Rules.kept, ite_self, List.append_nil]
      refine ⟨v.log, ?_⟩
      rw [List.length_nil, List.replicate_zero, hkept]
      exact answer () v
  | cons id ids ih =>
      obtain ⟨log, hpublish⟩ := publish rules (.deleted tick)
        { v with contents := v.contents.withoutQuiz id }
      obtain ⟨log', hrest⟩ := ih { v with
        contents := v.contents.withoutQuiz id
        events := v.events ++ rules.kept [.deleted tick]
        log }
      have hkept : v.events ++ rules.kept (List.replicate (id :: ids).length (.deleted tick)) =
          v.events ++ rules.kept [.deleted tick] ++
            rules.kept (List.replicate ids.length (.deleted tick)) := by
        rw [List.append_assoc, List.length_cons, List.replicate_succ]
        simp only [Rules.kept]
        split <;> rfl
      refine ⟨log', ?_⟩
      rw [hkept]
      exact (deleteQuiz id v).bind (hpublish.bind hrest)

/-- Firing removes the bucket of a tick and gives the ids that were in it. -/
theorem fire {rules : Rules} {tick : Int} {bucket : String}
    (htick : rules.derive tick = .ok bucket) (v : View) :
    ∃ log, (rules.schedule.fire tick).Yields v (.ok (v.contents.bucket bucket))
      { v with contents := v.contents.withoutBucket bucket, log } := by
  cases hids : v.contents.bucket bucket with
  | nil => exact ⟨_, (ofExcept htick v).bind ((drainBucket hids).bind (answer [] _))⟩
  | cons id ids =>
      exact ⟨_, (ofExcept htick v).bind ((drainBucket hids).bind
        ((note (.fired tick (id :: ids).length) systemUser _).bind (answer (id :: ids) _)))⟩

/-- **A tick** removes its bucket and the quizzes in it, unless it has no bucket. -/
theorem onTick (rules : Rules) (tick : Int) (v : View) :
    ∃ outcome v', (Act.onTick rules tick).Yields v outcome v' ∧
      Fired rules tick v outcome v' := by
  cases htick : rules.derive tick with
  | error e =>
      have hfire : (rules.schedule.fire tick).Yields v (.error e) v :=
        (ofExcept htick v).bind_error
      exact ⟨_, _, hfire.bind_error.locked, .refused htick⟩
  | ok bucket =>
      obtain ⟨log, hfire⟩ := fire htick v
      obtain ⟨log', hsweep⟩ := sweep rules tick (v.contents.bucket bucket)
        { v with contents := v.contents.withoutBucket bucket, log }
      have hexpire : (Act.expire rules tick).Yields v (.ok (v.contents.bucket bucket)) _ :=
        hfire.bind (hsweep.bind (answer (v.contents.bucket bucket) _))
      exact ⟨_, _, hexpire.locked, .done htick log'⟩

/-- The clock moves on. -/
theorem advance (v : View) :
    Act.advance.Yields v (.ok (v.clock + 1)) { v with clock := v.clock + 1 } := by
  intro p hall hshows
  refine ⟨{ hall with clock := hall.clock + 1 }, ?_, ?_⟩
  · rw [← hshows.clock]
    rfl
  · refine ⟨hshows.stores, hshows.inRange, hshows.ledger, ?_, hshows.events, hshows.log,
      hshows.naps, hshows.inOrder⟩
    rw [hshows.clock]

/-- **A step** moves the clock on and fires the new tick. -/
theorem step (rules : Rules) (v : View) :
    ∃ outcome v', (Act.step rules).Yields v outcome v' ∧ Stepped rules v outcome v' := by
  obtain ⟨outcome, v', htick, hfired⟩ :=
    onTick rules (v.clock + 1) { v with clock := v.clock + 1 }
  cases outcome with
  | error e => exact ⟨_, _, (advance v).bind htick.bind_error, .refused hfired⟩
  | ok ids =>
      cases ids with
      | nil =>
          exact ⟨_, _, (advance v).bind (htick.bind (answer (v.clock + 1) v')), .done hfired v'.log⟩
      | cons id ids =>
          exact ⟨_, _, (advance v).bind (htick.bind ((note (.swept _ (id :: ids).length) _ _).bind
            (answer (v.clock + 1) _))), .done hfired _⟩

/-! ### A number of ticks -/

/-- A wait leaves nothing but its trace. -/
theorem nap (seconds : Float) (v : View) :
    (Act.nap seconds).Yields v (.ok ()) { v with naps := ⟨v.clock, seconds⟩ :: v.naps } := by
  intro p hall hshows
  refine ⟨{ hall with naps := ⟨hall.clock, seconds⟩ :: hall.naps }, rfl, ?_⟩
  refine ⟨hshows.stores, hshows.inRange, hshows.ledger, hshows.clock, hshows.events, hshows.log,
    ?_, hshows.inOrder⟩
  rw [hshows.clock, hshows.naps]

/-- **A number of steps** is one after the other, until one fails. -/
theorem steps (rules : Rules) (seconds : Float) (n : Nat) (v : View) :
    ∃ outcome v', (Act.steps rules seconds n).Yields v outcome v' ∧
      Looped rules n v outcome v' := by
  induction n generalizing v with
  | zero => exact ⟨_, _, answer () v, .done v⟩
  | succ n ih =>
      obtain ⟨outcome, v', hstep, hstepped⟩ :=
        step rules { v with naps := ⟨v.clock, seconds⟩ :: v.naps }
      cases outcome with
      | error e =>
          exact ⟨_, _, (nap seconds v).bind hstep.bind_error, .broken _ hstepped⟩
      | ok tick =>
          obtain ⟨outcome, v'', hsteps, hlooped⟩ := ih v'
          exact ⟨_, _, (nap seconds v).bind (hstep.bind hsteps), .more _ hstepped hlooped⟩

/-- **The loop** over a number of ticks is that number of steps, and a line in the log if one of
them fails. -/
theorem loop (rules : Rules) (seconds : Float) (n : Nat) (v : View) :
    ∃ outcome v' log, (Act.loop rules seconds n).Yields v outcome { v' with log } ∧
      Looped rules n v outcome v' := by
  obtain ⟨outcome, v', hsteps, hlooped⟩ := steps rules seconds n v
  cases outcome with
  | ok _ => exact ⟨_, v', v'.log, hsteps.rescue, hlooped⟩
  | error e =>
      exact ⟨_, v', _, hsteps.rescue_error ((note (.brokeOff e) systemUser v').bind (fail e _)),
        hlooped⟩

end Act.Yields

end QuizHall
