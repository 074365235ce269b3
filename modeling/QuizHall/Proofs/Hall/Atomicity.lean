import QuizHall.Hall.Opening
import QuizHall.Proofs.Hall.Ending
import QuizHall.Proofs.Hall.History

/-!
# Failed Operations Change Nothing

Whenever one of the four operations that change a hall fails, the hall is as it was before, but for
lines in its log and statements that were sent to look something up. This does not rest on anything
that is true of the stores. A counter may be below zero or unreadable, ids may be taken, keys may
be missing, ratings may be no numbers, and a clock may have come to its last tick.

There are two ways in which an operation sees to it. An attempt, a deletion and a tick make all of
their checks first: once the first change has succeeded nothing can fail any more, since whatever
has to be written has been read before from the same place. A creation is different, because its
quiz is stored before it turns out that there is no bucket for it, or that the bucket is no list. It
takes the quiz out again, and since nothing was kept under the id before, this leaves no trace.

## Main results

* `failed_untouched`: whatever fails leaves the hall untouched.
-/

namespace QuizHall

variable {α : Type}

/-- A hall is left **untouched** if its stores, balances, clock and events are what they were. Only
the log and the statements may tell that something was tried. -/
structure Hall.Untouched (before after : Hall) : Prop where
  /-- Quizzes, keys, buckets, the counter and ratings are the same. -/
  stores : after.stores = before.stores
  /-- All balances are the same. -/
  ledger : after.ledger = before.ledger
  /-- The tick is the same. -/
  clock : after.clock = before.clock
  /-- The same events are kept. -/
  events : after.events = before.events
  /-- The same calls are out of order. -/
  outages : after.outages = before.outages

/-- An operation **fails cleanly** in a hall if it leaves the hall untouched whenever it fails. -/
def Act.FailsCleanly (act : Act α) (hall : Hall) : Prop :=
  ∀ e after, act.run hall = (.error e, after) → hall.Untouched after

namespace Hall

/-- The condition that an operation ends in if it fails cleanly. -/
def Clean (before : Hall) : Except Fault α → Hall → Prop
  | .ok _, _ => True
  | .error _, after => before.Untouched after

/-- An operation that ends cleanly fails cleanly. -/
theorem failsCleanly_of_ends {act : Act α} {hall : Hall} (h : act.Ends hall hall.Clean) :
    act.FailsCleanly hall := by
  intro e after hrun
  rw [Act.Ends, hrun] at h
  exact h

variable {before hall : Hall}

namespace Untouched

theorem refl (hall : Hall) : hall.Untouched hall := ⟨rfl, rfl, rfl, rfl, rfl⟩

/-- Lines in the log and statements do not count. -/
theorem withTraces (h : before.Untouched hall) (log : List LogRecord)
    (statements : List Statement) : before.Untouched { hall with log, statements } :=
  ⟨h.stores, h.ledger, h.clock, h.events, h.outages⟩

/-- Whatever was in the stores in between, they can be put back. -/
theorem restored (h : before.Untouched hall) {stores : Stores} (hstores : stores = before.stores) :
    before.Untouched { hall with stores } :=
  ⟨hstores, h.ledger, h.clock, h.events, h.outages⟩

end Untouched

/-! ### Deletions -/

/-- Removing the quiz is the last thing in a deletion that can fail. -/
theorem ends_deleteBy (rules : Rules) (sender : String) (sequence : Int) (hall : Hall) :
    (Act.deleteBy rules sender sequence).Ends hall hall.Clean :=
  .deleteBy (fun _ => .refl hall) fun _ _ _ _ _ _ _ => trivial

/-! ### Attempts -/

/-- After the payment an attempt cannot fail if ratings can be stored: the rating that has to be
stored is one that was read before the payment. -/
theorem ends_attemptBy_of (rules : Rules) (sender : String) (sequence : Int) (submission : Answers)
    (inOrder : hall.outages.find? .ratingSave = none) :
    (Act.attemptBy rules sender sequence submission).Ends hall hall.Clean := by
  refine .attemptBy (fun e statements => (Untouched.refl hall).withTraces hall.log statements)
    (fun e owner amount prior rated ledger log statements _ hprior he => ?_)
    fun _ _ _ _ _ _ _ _ _ _ _ => trivial
  -- The rating was read, so it can be stored.
  obtain ⟨stores, hsave⟩ := Stores.exists_saveRating hprior rated
  cases (he inOrder).symm.trans hsave

theorem ends_attemptBy (rules : Rules) (sender : String) (sequence : Int) (submission : Answers)
    (inOrder : ∀ call, hall.outages.find? call = none) :
    (Act.attemptBy rules sender sequence submission).Ends hall hall.Clean :=
  ends_attemptBy_of rules sender sequence submission (inOrder .ratingSave)

/-! ### Creations -/

/-- A quiz that cannot be scheduled is taken out again, if quizzes can be removed. That it can be
counted is known, since the counter was read before. -/
theorem ends_enter_of (rules : Rules) (quiz : Quiz) (key : Answers)
    (hdeletes : hall.outages.find? .quizDelete = none)
    (hcounts : hall.outages.find? .counterPut = none) :
    (Act.enter rules quiz key).Ends hall hall.Clean := by
  have hsame := Untouched.refl hall
  refine .enter (fun e log => hsame.withTraces log hall.statements)
    (fun id placed e hplaced => ?_)
    (fun n id bucket placed stores log e hn hplaced happend he => ?_)
    fun _ _ _ _ _ _ _ _ _ _ _ => trivial
  · -- The quiz is placed but not scheduled.
    have hundo := Stores.deleteQuiz_createQuiz hplaced
    refine .deleteQuiz (fun e' he => ?_) fun stores hstores => ?_
    · cases (he hdeletes).symm.trans hundo
    · exact .fail (hsame.restored (Except.ok.inj (hstores.symm.trans hundo)))
  · -- The quiz is scheduled but not counted, which does not happen.
    have hplace : hall.stores.AgreeOn placed .counter :=
      Stores.agreeOn_createQuiz hplaced (by simp) (by simp)
    have hschedule : placed.AgreeOn stores .counter :=
      Stores.agreeOn_appendBucket happend (by simp)
    have hcounter : stores.counter = .ok n :=
      calc stores.counter = placed.counter := hschedule
        _ = hall.stores.counter := hplace
        _ = .ok n := hn
    obtain ⟨stores', hput⟩ := Stores.exists_putCounter hcounter (Int.lt_succ n)
    cases (he hcounts).symm.trans hput

theorem ends_enter (rules : Rules) (quiz : Quiz) (key : Answers)
    (inOrder : ∀ call, hall.outages.find? call = none) :
    (Act.enter rules quiz key).Ends hall hall.Clean :=
  ends_enter_of rules quiz key (inOrder .quizDelete) (inOrder .counterPut)

/-! ### Ticks -/

/-- Sweeping removes one quiz after the other, and nothing can keep it from doing so. -/
theorem ends_sweep {rules : Rules} {tick : Int} {ids : List String}
    {q : Except Fault Unit → Hall → Prop} (inOrder : ∀ call, hall.outages.find? call = none)
    (hreach : hall.stores.Reachable) (hok : ∀ hall', q (.ok ()) hall') :
    (Act.sweep rules tick ids).Ends hall q := by
  induction ids generalizing hall with
  | nil => exact hok hall
  | cons id ids ih =>
      obtain ⟨stores, hdelete, hreach'⟩ := hreach.exists_deleteQuiz id
      refine .bind (.deleteQuiz (fun e he => ?_) fun stores' hstores => ?_)
      · cases (he (inOrder .quizDelete)).symm.trans hdelete
      · rw [hdelete] at hstores
        obtain rfl := Except.ok.inj hstores
        exact .bind (.publish fun _ _ => ih inOrder hreach')

/-- Once a bucket was removed, its ids are read and their quizzes are removed. -/
theorem ends_expire (rules : Rules) (tick : Int)
    (inOrder : ∀ call, hall.outages.find? call = none)
    (htexts : ∀ bucket, ∃ ids : List String,
      hall.stores.entriesIn bucket = ids.map String.toUTF8) :
    (Act.expire rules tick).Ends hall hall.Clean := by
  have hsame := Untouched.refl hall
  refine .bind (.fire (fun _ => hsame) (fun e bucket stores hdrain => ?_)
    fun ids bucket stores log hdrain => ?_)
  · obtain ⟨ids, hids⟩ := htexts bucket
    have hread := (Stores.drainBucket_eq_ok hdrain).1
    rw [hids, KeySpace.readTexts_toUTF8] at hread
    cases hread
  · have hreach := (Stores.drainBucket_eq_ok hdrain).2
    exact .bind (ends_sweep inOrder hreach fun _ => .answer trivial)

/-! ### Everything that can fail -/

/-- **Failed operations change nothing.** Whatever a hall has in its stores, whatever its balances
and its clock are and by whatever rules it is run, a creation, an attempt and a deletion that fail
leave it untouched. So does a tick that fails, if the entries of the buckets are texts; otherwise
the bucket of the tick is lost. -/
theorem failed_untouched (rules : Rules) (hall : Hall)
    (inOrder : ∀ call, hall.outages.find? call = none) :
    (∀ ctx questions key gate,
      (Act.create rules ctx questions key gate).FailsCleanly hall) ∧
    (∀ ctx sequence submission, (Act.attempt rules ctx sequence submission).FailsCleanly hall) ∧
    (∀ ctx sequence, (Act.delete rules ctx sequence).FailsCleanly hall) ∧
    ((∀ bucket, ∃ ids : List String, hall.stores.entriesIn bucket = ids.map String.toUTF8) →
      ∀ tick, (Act.onTick rules tick).FailsCleanly hall) := by
  have hsame := Untouched.refl hall
  refine ⟨fun ctx questions key gate => failsCleanly_of_ends ?_,
    fun ctx sequence submission => failsCleanly_of_ends ?_,
    fun ctx sequence => failsCleanly_of_ends ?_, fun htexts tick => failsCleanly_of_ends ?_⟩
  · refine .bind (.ofExcept (fun _ _ => hsame) fun quiz _ => ?_)
    exact .locked (ends_enter rules quiz key inOrder)
  · refine .bind (.ofExcept (fun _ _ => hsame) fun sender _ => ?_)
    exact .locked (ends_attemptBy rules sender sequence submission inOrder)
  · refine .bind (.ofExcept (fun _ _ => hsame) fun sender _ => ?_)
    exact .locked (ends_deleteBy rules sender sequence hall)
  · exact .locked (ends_expire rules tick inOrder htexts)

/-- A hall at the last tick of 64 bits, where no quiz can be scheduled any more. -/
def atLastTick : Hall := ofSettings default {} u64Max

/-- At the last tick a creation fails after its quiz was stored, and the quiz is gone again. The
tick before the first one fails too, and does nothing. -/
theorem failed_untouched_atLastTick :
    (∀ call, atLastTick.outages.find? call = none) ∧
    (∀ bucket, ∃ ids : List String, atLastTick.stores.entriesIn bucket = ids.map String.toUTF8) ∧
    (∃ after, (Act.create (Rules.ofSettings default asCharacters true) ⟨some "owner"⟩
        (List.replicate 5 default) firstOptions (.int 0)).run atLastTick =
          (.error (.beyondU64 (u64Max + 10)), after) ∧ atLastTick.Untouched after) ∧
    ∃ after, (Act.onTick (Rules.ofSettings default asCharacters true) (-1)).run atLastTick =
      (.error (.beyondU64 (-1)), after) ∧ atLastTick.Untouched after := by
  have inOrder : ∀ call, atLastTick.outages.find? call = none := fun _ => rfl
  have htexts : ∀ bucket, ∃ ids : List String,
      atLastTick.stores.entriesIn bucket = ids.map String.toUTF8 := fun _ => ⟨[], rfl⟩
  have h := failed_untouched (Rules.ofSettings default asCharacters true) atLastTick inOrder
  refine ⟨inOrder, htexts, ⟨_, rfl, ?_⟩, _, rfl, ?_⟩
  · exact h.1 ⟨some "owner"⟩ (List.replicate 5 default) firstOptions (.int 0) _ _ rfl
  · exact h.2.2.2 htexts (-1) _ _ rfl

end Hall

end QuizHall
