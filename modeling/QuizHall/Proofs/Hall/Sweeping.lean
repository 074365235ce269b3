import QuizHall.Proofs.Hall.Driven
import QuizHall.Proofs.Hall.Rounds

/-!
# What the Loop Sweeps Away

The loop over a number of ticks empties the buckets of these ticks, one after the other, and removes
every quiz whose id it finds there. A tick touches no bucket but its own, so what a later tick is
going to find can be read off the hall in which the loop begins. This is what lets the whole loop be
described by its first hall and its last, with no word about those in between.

That no tick touches the bucket of another one is due to the hash function, which separates, and to
the ticks, which are numbers of 64 bits. The first tick beyond 64 bits has no bucket. There the loop
breaks off, with the clock already moved on, and what the ticks before it have done stays done.

## Main definitions

* `View.Swept`: what the next ticks sweep away.
* `Hall.Swept`: the same in a hall, by the history of the hall.

## Main results

* `View.Swept.trans`: sweeping goes on where it has stopped.
* `Act.Yields.steps_swept`: the steps of the loop, as long as there are ticks.
* `Hall.loop_sweeps_what_falls_due`: what the loop does to every hall that a run has led to.
-/

namespace QuizHall

/-! ### Ticks, one after the other -/

/-- Ticks that follow are followed by those that follow them. -/
theorem ticksAfter_add (t : Int) (n m : Nat) :
    ticksAfter t (n + m) = ticksAfter t n ++ ticksAfter (t + n) m := by
  induction n generalizing t with
  | zero => rw [Nat.zero_add, Int.natCast_zero, Int.add_zero]; rfl
  | succ n ih =>
      have hnext : t + 1 + (n : Int) = t + ((n + 1 : Nat) : Int) := by omega
      rw [Nat.succ_add, ticksAfter_succ, ticksAfter_succ, ih, hnext, List.cons_append]

/-- What is kept of events is kept of each part of them. -/
theorem Rules.kept_append (rules : Rules) (events more : List Event) :
    rules.kept (events ++ more) = rules.kept events ++ rules.kept more := by
  rw [kept, kept, kept]
  split <;> rfl

/-- What is published at some ticks by what is scheduled for each of them: a deletion for every
id. -/
def deletionsAt (scheduled : Int → List String) (ticks : List Int) : List Event :=
  ticks.flatMap fun tick => List.replicate (scheduled tick).length (.deleted tick)

/-! ### Sweeping -/

/-- The ids that are scheduled for some ticks, in the order of the ticks. -/
def View.scheduledFor (rules : Rules) (v : View) (ticks : List Int) : List String :=
  ticks.flatMap fun tick => v.contents.bucket (rules.idOf tick)

/-- What the next ticks have **swept** away from one view to another. -/
structure View.Swept (rules : Rules) (seconds : Float) (n : Nat) (v v' : View) : Prop where
  /-- The clock has moved on to the last of the ticks. -/
  clock : v'.clock = v.clock + n
  /-- Each of the ticks was waited for, at the one before it. -/
  naps : v'.naps.reverse =
    v.naps.reverse ++ (ticksAfter v.clock n).map fun tick => ⟨tick - 1, seconds⟩
  /-- Quizzes are gone if their ids were scheduled for one of the ticks. -/
  quizzes : ∀ id, v'.contents.quizzes.find? id =
    if id ∈ v.scheduledFor rules (ticksAfter v.clock n) then none else v.contents.quizzes.find? id
  /-- Their keys are gone with them. -/
  keys : ∀ id, v'.contents.keys.find? id =
    if id ∈ v.scheduledFor rules (ticksAfter v.clock n) then none else v.contents.keys.find? id
  /-- The buckets of the ticks are empty, and all others are what they were. -/
  buckets : ∀ bucket, v'.contents.bucket bucket =
    if bucket ∈ (ticksAfter v.clock n).map rules.idOf then [] else v.contents.bucket bucket
  /-- The counter stands still. -/
  counter : v'.contents.counter = v.contents.counter
  /-- All ratings are the same. -/
  ratings : v'.contents.ratings = v.contents.ratings
  /-- All balances are the same. -/
  ledger : v'.ledger = v.ledger
  /-- A deletion is published for every id, in the order of the ticks. -/
  events : v'.events = v.events ++ rules.kept
    (deletionsAt (fun tick => v.contents.bucket (rules.idOf tick)) (ticksAfter v.clock n))

namespace View.Swept

variable {rules : Rules} {seconds : Float} {n m : Nat} {v v' v'' : View}

/-- No tick sweeps nothing away. -/
theorem refl (rules : Rules) (seconds : Float) (v : View) : v.Swept rules seconds 0 v where
  clock := (Int.add_zero v.clock).symm
  naps := (List.append_nil _).symm
  quizzes _ := rfl
  keys _ := rfl
  buckets _ := rfl
  counter := rfl
  ratings := rfl
  ledger := rfl
  events := by
    have hnothing : rules.kept [] = [] := ite_self []
    exact (List.append_nil v.events).symm.trans (congrArg (v.events ++ ·) hnothing.symm)

/-- A step sweeps one tick away, if the tick has a bucket. -/
theorem of_stepped {outcome : Except Fault Int} (htick : IsU64 (v.clock + 1))
    (h : Stepped rules { v with naps := ⟨v.clock, seconds⟩ :: v.naps } outcome v') :
    outcome = .ok (v.clock + 1) ∧ v.Swept rules seconds 1 v' := by
  have hderive : rules.derive (v.clock + 1) = .ok (rules.idOf (v.clock + 1)) :=
    Rules.derive_of_isU64 htick
  have hticks : ticksAfter v.clock 1 = [v.clock + 1] := by rw [ticksAfter_succ]; rfl
  have hids : v.scheduledFor rules (ticksAfter v.clock 1) =
      v.contents.bucket (rules.idOf (v.clock + 1)) := by
    rw [hticks, View.scheduledFor, List.flatMap_singleton]
  cases h with
  | refused hfired =>
      cases hfired with
      | refused herror => cases hderive.symm.trans herror
  | done hfired log =>
      cases hfired with
      | done hbucket log' =>
          obtain rfl := Except.ok.inj (hderive.symm.trans hbucket)
          refine ⟨rfl, ?_⟩
          exact {
            clock := rfl
            naps := by rw [hticks, List.map_singleton, Int.add_sub_cancel, List.reverse_cons]
            quizzes := fun id => by rw [hids]; exact Contents.quizzes_expiring ..
            keys := fun id => by rw [hids]; exact Contents.keys_expiring ..
            buckets := fun bucket => by
              rw [hticks, List.map_singleton]
              simp only [List.mem_singleton]
              exact Contents.bucket_expiring ..
            counter := Contents.counter_expiring ..
            ratings := (Contents.foldl_withoutQuiz ..).2.2
            ledger := rfl
            events := by rw [hticks, deletionsAt, List.flatMap_singleton] }

/-- A tick touches no bucket of a later one. -/
theorem scheduledFor_later (h : v.Swept rules seconds n v') (hsep : rules.hash.Separates)
    (hticks : ∀ tick ∈ ticksAfter v.clock (n + m), IsU64 tick) :
    ∀ tick ∈ ticksAfter (v.clock + n) m,
      v'.contents.bucket (rules.idOf tick) = v.contents.bucket (rules.idOf tick) := by
  rw [ticksAfter_add] at hticks
  intro tick htick
  rw [h.buckets, if_neg]
  intro hmem
  obtain ⟨earlier, hearlier, hid⟩ := List.mem_map.mp hmem
  have heq : earlier = tick := Rules.idOf_inj hsep
    (hticks earlier (List.mem_append_left _ hearlier))
    (hticks tick (List.mem_append_right _ htick)) hid
  have hle := (mem_ticksAfter.mp hearlier).2
  have hlt := (mem_ticksAfter.mp htick).1
  omega

/-- **Sweeping goes on where it has stopped.** -/
theorem trans (h : v.Swept rules seconds n v') (h' : v'.Swept rules seconds m v'')
    (hsep : rules.hash.Separates) (hticks : ∀ tick ∈ ticksAfter v.clock (n + m), IsU64 tick) :
    v.Swept rules seconds (n + m) v'' := by
  have hlater := h.scheduledFor_later hsep hticks
  have hids : v'.scheduledFor rules (ticksAfter v'.clock m) =
      v.scheduledFor rules (ticksAfter (v.clock + n) m) := by
    rw [h.clock]
    exact List.flatMap_congr hlater
  have hall : v.scheduledFor rules (ticksAfter v.clock (n + m)) =
      v.scheduledFor rules (ticksAfter v.clock n) ++
        v.scheduledFor rules (ticksAfter (v.clock + n) m) := by
    rw [ticksAfter_add]
    exact List.flatMap_append
  -- What is gone in the end has gone with the later ticks or with the earlier ones.
  have hgone {α : Type} (a b : α) (x : String) (earlier later : List String) :
      (if x ∈ later then a else if x ∈ earlier then a else b) =
        if x ∈ earlier ++ later then a else b := by
    rw [← ite_or]
    exact if_congr (or_comm.trans List.mem_append.symm) rfl rfl
  have hdeletions : deletionsAt (fun tick => v'.contents.bucket (rules.idOf tick))
      (ticksAfter v'.clock m) = deletionsAt (fun tick => v.contents.bucket (rules.idOf tick))
        (ticksAfter (v.clock + n) m) := by
    rw [h.clock]
    refine List.flatMap_congr fun tick htick => ?_
    simp only [hlater tick htick]
  exact {
    clock := by rw [h'.clock, h.clock]; push_cast; omega
    naps := by
      rw [h'.naps, h.naps, h.clock, ticksAfter_add, List.map_append, List.append_assoc]
    quizzes := fun id => by rw [h'.quizzes, h.quizzes, hids, hall, hgone]
    keys := fun id => by rw [h'.keys, h.keys, hids, hall, hgone]
    buckets := fun bucket => by
      rw [h'.buckets, h.buckets, h.clock, ticksAfter_add, List.map_append, hgone]
    counter := h'.counter.trans h.counter
    ratings := h'.ratings.trans h.ratings
    ledger := h'.ledger.trans h.ledger
    events := by
      rw [h'.events, h.events, hdeletions, ticksAfter_add, List.append_assoc,
        ← Rules.kept_append]
      exact congrArg (v.events ++ rules.kept ·) List.flatMap_append.symm }

end View.Swept

/-- **The steps of the loop** sweep away one tick after the other, as long as the ticks have
buckets. -/
theorem Act.Yields.steps_swept {rules : Rules} (hsep : rules.hash.Separates) (seconds : Float)
    (n : Nat) {v : View} (hticks : ∀ tick ∈ ticksAfter v.clock n, IsU64 tick) :
    ∃ v', (Act.steps rules seconds n).Yields v (.ok ()) v' ∧ v.Swept rules seconds n v' := by
  induction n generalizing v with
  | zero => exact ⟨v, .answer () v, .refl rules seconds v⟩
  | succ n ih =>
      obtain ⟨outcome, v', hstep, hstepped⟩ :=
        step rules { v with naps := ⟨v.clock, seconds⟩ :: v.naps }
      have hnext : IsU64 (v.clock + 1) ∧ ∀ tick ∈ ticksAfter (v.clock + 1) n, IsU64 tick := by
        rw [ticksAfter_succ] at hticks
        exact List.forall_mem_cons.mp hticks
      obtain ⟨rfl, hfirst⟩ := View.Swept.of_stepped hnext.1 hstepped
      have hclock : v'.clock = v.clock + 1 := hfirst.clock
      obtain ⟨v'', hsteps, hrest⟩ := ih (v := v') (by rw [hclock]; exact hnext.2)
      refine ⟨v'', (nap seconds v).bind (hstep.bind hsteps), ?_⟩
      rw [Nat.add_comm] at hticks ⊢
      exact hfirst.trans hrest hsep hticks

/-! ### The first tick without a bucket -/

/-- A loop breaks off at a tick that has no bucket. The wait and the clock stay as they are by
then. -/
theorem Act.run_loop_of_not_isU64 {rules : Rules} {hall : Hall} (seconds : Float) (n : Nat)
    (hbeyond : ¬ IsU64 (hall.clock + 1)) :
    (Act.loop rules seconds (n + 1)).run hall =
      (.error (.beyondU64 (hall.clock + 1)),
        { hall with
          clock := hall.clock + 1
          naps := ⟨hall.clock, seconds⟩ :: hall.naps
          log := hall.log ++ [⟨.brokeOff (.beyondU64 (hall.clock + 1)), systemUser⟩] }) := by
  let fresh : Hall :=
    { hall with clock := hall.clock + 1, naps := ⟨hall.clock, seconds⟩ :: hall.naps }
  have htick : (Act.onTick rules (hall.clock + 1)).run fresh =
      (.error (.beyondU64 (hall.clock + 1)), fresh) := by
    have hderive : rules.schedule.derive (hall.clock + 1) = .error (.beyondU64 (hall.clock + 1)) :=
      Rules.derive_of_not_isU64 hbeyond
    rw [Act.onTick, Act.run_locked, Act.expire, Act.run_bind, Schedule.fire, hderive]
    rfl
  have hround : (Act.round rules seconds (hall.clock + 1)).run hall =
      (.error (.beyondU64 (hall.clock + 1)), fresh) := by
    change (Act.onTick rules (hall.clock + 1) >>= fun ids => _).run fresh = _
    rw [Act.run_bind, htick]
  have hsteps : (Act.steps rules seconds (n + 1)).run hall =
      (.error (.beyondU64 (hall.clock + 1)), fresh) := by
    rw [Act.steps, Act.run_nap_step, Act.run_bind, hround]
  rw [Act.loop, Act.run_noted, hsteps]

/-! ### The loop in a hall with a history -/

/-- A quiz **falls due within** a number of ticks if the tick at which it does is one of them. -/
def Creation.FallsDueWithin (rules : Rules) (clock : Int) (n : Nat) (b : Creation) : Prop :=
  clock < b.due rules ∧ b.due rules ≤ clock + n

/-- What the next ticks have **swept** away from one hall to another, by the history that has led to
the first one. -/
structure Hall.Swept (rules : Rules) (history : List Deed) (seconds : Float) (n : Nat)
    (before after : Hall) : Prop where
  /-- The clock has moved on to the last of the ticks. -/
  clock : after.clock = before.clock + n
  /-- Each of the ticks was waited for, at the one before it. -/
  naps : after.naps.reverse =
    before.naps.reverse ++ (ticksAfter before.clock n).map fun tick => ⟨tick - 1, seconds⟩
  /-- Every quiz that lives and falls due is gone, with its key. -/
  removed : ∀ b id, Lives rules history b → b.FallsDueWithin rules before.clock n →
    rules.derive b.sequence = .ok id →
      after.stores.quiz? id = .ok none ∧ after.stores.key? id = .ok none
  /-- Whatever is stored under the id of no such quiz is what it was. -/
  kept : ∀ id, (∀ b, Lives rules history b → b.FallsDueWithin rules before.clock n →
    rules.derive b.sequence ≠ .ok id) →
      after.stores.quiz? id = before.stores.quiz? id ∧
        after.stores.key? id = before.stores.key? id
  /-- A deletion is published for every id that was scheduled for one of the ticks, in the order of
  the ticks. -/
  events : ∃ scheduled : Int → List String,
    (∀ tick ∈ ticksAfter before.clock n,
      (rules.schedule.pending tick).run before = (.ok (scheduled tick), before)) ∧
    after.events =
      before.events ++ rules.kept (deletionsAt scheduled (ticksAfter before.clock n))
  /-- All ratings are the same. -/
  ratings : ∀ account, after.stores.rating account = before.stores.rating account
  /-- The counter stands still. -/
  counter : after.stores.counter = before.stores.counter
  /-- All balances are the same. -/
  ledger : after.ledger = before.ledger

/-- Showing what is scheduled for a tick changes nothing. -/
theorem Hall.Shows.run_pending {rules : Rules} {hall : Hall} {p : Places} {v : View}
    (h : hall.Shows p v) {tick : Int} (htick : IsU64 tick) :
    (rules.schedule.pending tick).run hall =
      (.ok (v.contents.bucket (rules.idOf tick)), hall) := by
  have hderive : rules.schedule.derive tick = .ok (rules.idOf tick) := Rules.derive_of_isU64 htick
  have hread : (Act.bucket (rules.idOf tick)).run hall =
      (.ok (v.contents.bucket (rules.idOf tick)), hall) := by
    rw [Act.bucket, Call.run_reading (h.inOrder _), h.stores.bucket]
  rw [Schedule.pending, hderive, Act.run_bind, Act.run_ofExcept]
  exact hread

/-- The id of a quiz that lives is scheduled for some ticks just if it falls due at one of them. -/
theorem Chronicle.mem_scheduledFor {rules : Rules} {history : List Deed} {v : View}
    (h : Chronicle rules history v.contents) (hsep : rules.hash.Separates) {b : Creation}
    (hlives : Lives rules history b) {n : Nat}
    (hticks : ∀ tick ∈ ticksAfter v.clock n, IsU64 tick) :
    rules.idOf b.sequence ∈ v.scheduledFor rules (ticksAfter v.clock n) ↔
      b.FallsDueWithin rules v.clock n := by
  have hdue (tick : Int) (htick : IsU64 tick) :
      rules.idOf b.sequence ∈ v.contents.bucket (rules.idOf tick) ↔ b.due rules = tick :=
    (h.mem_bucket hsep hlives _).trans (h.idOf_due hsep hlives.created_mem htick)
  rw [View.scheduledFor, List.mem_flatMap, Creation.FallsDueWithin, ← mem_ticksAfter]
  constructor
  · rintro ⟨tick, htick, hmem⟩
    rw [(hdue tick (hticks tick htick)).mp hmem]
    exact htick
  · exact fun hmem => ⟨b.due rules, hmem, (hdue _ (hticks _ hmem)).mpr rfl⟩

/-- What is swept away from a view is what falls due in a hall that shows it. -/
theorem View.Swept.hall {rules : Rules} {history : List Deed} {seconds : Float} {n : Nat}
    {v v' : View} {before after : Hall} {p : Places} (h : v.Swept rules seconds n v')
    (hchronicle : Chronicle rules history v.contents) (hsep : rules.hash.Separates)
    (hticks : ∀ tick ∈ ticksAfter v.clock n, IsU64 tick) (hbefore : before.Shows p v)
    (hafter : after.Shows p v') : before.Swept rules history seconds n after := by
  have hdue {b : Creation} (hlives : Lives rules history b) :=
    hchronicle.mem_scheduledFor hsep hlives hticks
  have hderive {b : Creation} (hlives : Lives rules history b) :
      rules.derive b.sequence = .ok (rules.idOf b.sequence) :=
    Rules.derive_of_isU64 (hchronicle.isU64_sequence hlives.created_mem)
  refine ⟨?_, ?_, fun b id hlives hwithin hid => ?_, fun id hnone => ?_, ?_, fun account => ?_, ?_,
    ?_⟩
  · rw [hafter.clock, h.clock, hbefore.clock]
  · rw [hafter.naps, h.naps, hbefore.naps, hbefore.clock]
  · obtain rfl := Except.ok.inj ((hderive hlives).symm.trans hid)
    rw [hbefore.clock] at hwithin
    have hmem := (hdue hlives).mpr hwithin
    rw [hafter.stores.quiz?, hafter.stores.key?, h.quizzes, h.keys, if_pos hmem, if_pos hmem]
    exact ⟨rfl, rfl⟩
  · rw [hafter.stores.quiz?, hafter.stores.key?, hbefore.stores.quiz?, hbefore.stores.key?,
      h.quizzes, h.keys]
    by_cases hstored : ∃ b, Lives rules history b ∧ rules.idOf b.sequence = id
    · -- The quiz that lives under this id falls due later, or has been due before.
      obtain ⟨b, hlives, rfl⟩ := hstored
      have hstays : rules.idOf b.sequence ∉ v.scheduledFor rules (ticksAfter v.clock n) := by
        intro hmem
        refine hnone b hlives ?_ (hderive hlives)
        rw [hbefore.clock]
        exact (hdue hlives).mp hmem
      rw [if_neg hstays, if_neg hstays]
      exact ⟨rfl, rfl⟩
    · -- Where nothing was stored nothing is stored, scheduled or not.
      have hfree := hchronicle.free id fun b hlives hid => hstored ⟨b, hlives, hid⟩
      rw [hfree.1, hfree.2, ite_self, ite_self]
      exact ⟨rfl, rfl⟩
  · refine ⟨fun tick => v.contents.bucket (rules.idOf tick), fun tick htick => ?_, ?_⟩
    · rw [hbefore.clock] at htick
      exact hbefore.run_pending (hticks tick htick)
    · rw [hafter.events, h.events, hbefore.events, hbefore.clock]
  · rw [hafter.stores.rating hafter.inRange, hbefore.stores.rating hbefore.inRange,
      Contents.rating, h.ratings]
    rfl
  · rw [hafter.stores.counter hafter.inRange, hbefore.stores.counter hbefore.inRange, h.counter]
  · rw [hafter.ledger, h.ledger, hbefore.ledger]

namespace Hall

/-- The loop over ticks that have buckets comes to its end, and what it sweeps away is what falls
due. -/
theorem Shows.run_loop {rules : Rules} {history : List Deed} {hall : Hall} {p : Places} {v : View}
    (h : hall.Shows p v) (hchronicle : Chronicle rules history v.contents)
    (hsep : rules.hash.Separates) (seconds : Float) {n : Nat}
    (hticks : ∀ tick ∈ ticksAfter hall.clock n, IsU64 tick) :
    ∃ after, (Act.steps rules seconds n).run hall = (.ok (), after) ∧
      (Act.loop rules seconds n).run hall = (.ok (), after) ∧
        hall.Swept rules history seconds n after := by
  rw [h.clock] at hticks
  obtain ⟨v', hsteps, hswept⟩ := Act.Yields.steps_swept hsep seconds n hticks
  obtain ⟨after, hrun, hafter⟩ := hsteps p hall h
  refine ⟨after, hrun, ?_, hswept.hall hchronicle hsep hticks h hafter⟩
  rw [Act.loop, Act.run_noted, hrun]

/-- **The loop sweeps away just what falls due.** Let a run from empty stores have come to a tick
that is not below zero. What is stored are the quizzes that live, each with its key. The loop over
the next ticks, as far as they have buckets, comes to its end. It has waited once for each of them;
it has removed those quizzes, with their keys, that fall due within these ticks, and no others; it
has published a deletion for every id that was scheduled for them, tick by tick; and ratings,
balances and the counter are what they were. A loop that goes on from there is the loop over all of
the ticks.

A loop that makes a step and would come to a tick beyond 64 bits does all that for the ticks before
the first one of this kind, and breaks off there. -/
theorem loop_sweeps_what_falls_due (settings : Settings) (hash : HashService) (keepsEvents : Bool)
    (ledger : Ledger) (clock : Int) (requests : List Request) (seconds : Float)
    (hsep : hash.Separates) :
    let rules := Rules.ofSettings settings hash keepsEvents
    let start := ofSettings settings ledger clock
    let last := (serve rules start requests).2
    let history := deeds rules start requests
    0 ≤ last.clock →
      (∀ b, Lives rules history b → ∃ id quiz, rules.derive b.sequence = .ok id ∧
        last.stores.quiz? id = .ok (some quiz) ∧ b.Asks quiz ∧
          last.stores.key? id = .ok (some b.key)) ∧
      (∀ id quiz, last.stores.quiz? id = .ok (some quiz) →
        ∃ b, Lives rules history b ∧ rules.derive b.sequence = .ok id) ∧
      (∀ n : Nat, last.clock + n ≤ (u64Max : Int) →
        ∃ after, (Act.loop rules seconds n).run last = (.ok (), after) ∧
          last.Swept rules history seconds n after ∧
          ∀ m : Nat, (Act.loop rules seconds (n + m)).run last =
            (Act.loop rules seconds m).run after) ∧
      ∀ n : Nat, 0 < n → (u64Max : Int) < last.clock + n →
        ∃ k after, k < n ∧ (∀ tick ∈ ticksAfter last.clock k, IsU64 tick) ∧
          ¬ IsU64 (after.clock + 1) ∧
          (Act.loop rules seconds k).run last = (.ok (), after) ∧
          last.Swept rules history seconds k after ∧
          (Act.loop rules seconds n).run last =
            (.error (.beyondU64 (after.clock + 1)),
              { after with
                clock := after.clock + 1
                naps := ⟨after.clock, seconds⟩ :: after.naps
                log := after.log ++ [⟨.brokeOff (.beyondU64 (after.clock + 1)), systemUser⟩] }) ∧
          (Fault.beyondU64 (after.clock + 1)).kind = .badValue := by
  intro rules start last history hmin
  have hsep' : rules.hash.Separates := hsep
  obtain ⟨v, hshows, h⟩ := serve_chronicle hsep' (shows_ofSettings settings ledger clock)
    (Chronicle.nil rules) requests
  have hshows : last.Shows settings.places v := hshows
  have h : Chronicle rules history v.contents := h
  refine ⟨fun b hlives => ?_, fun id quiz hquiz => ?_, fun n hmax => ?_, fun n hn hbeyond => ?_⟩
  · obtain ⟨⟨quiz, hquiz, hasks⟩, hkey⟩ := h.stored b hlives
    refine ⟨_, quiz, Rules.derive_of_isU64 (h.isU64_sequence hlives.created_mem), ?_, hasks, ?_⟩
    · rw [hshows.stores.quiz?, hquiz]
    · rw [hshows.stores.key?, hkey]
  · rw [hshows.stores.quiz?] at hquiz
    obtain ⟨b, hlives, rfl, -⟩ := h.exists_lives (Except.ok.inj hquiz)
    exact ⟨b, hlives, Rules.derive_of_isU64 (h.isU64_sequence hlives.created_mem)⟩
  · have hticks : ∀ tick ∈ ticksAfter last.clock n, IsU64 tick := by
      intro tick htick
      obtain ⟨hlt, hle⟩ := mem_ticksAfter.mp htick
      exact ⟨by omega, by omega⟩
    obtain ⟨after, hsteps, hloop, hswept⟩ := hshows.run_loop h hsep' seconds hticks
    exact ⟨after, hloop, hswept, Act.run_loop_add hsteps⟩
  · -- As many ticks have buckets as there are up to the greatest number of 64 bits.
    let k := ((u64Max : Int) - last.clock).toNat
    have hk : k < n := by omega
    have hticks : ∀ tick ∈ ticksAfter last.clock k, IsU64 tick := by
      intro tick htick
      obtain ⟨hlt, hle⟩ := mem_ticksAfter.mp htick
      exact ⟨by omega, by omega⟩
    obtain ⟨after, hsteps, hloop, hswept⟩ := hshows.run_loop h hsep' seconds hticks
    have hclock := hswept.clock
    have hnext : ¬ IsU64 (after.clock + 1) := by
      rintro ⟨-, hle⟩
      omega
    obtain ⟨m, rfl⟩ : ∃ m, n = k + (m + 1) := ⟨n - k - 1, by omega⟩
    refine ⟨k, after, hk, hticks, hnext, hloop, hswept, ?_, kind_beyondU64 _⟩
    rw [Act.run_loop_add hsteps]
    exact Act.run_loop_of_not_isU64 seconds m hnext

/-- A hall in which the first quiz was created so late that it falls due at the last tick of all. -/
def lastChance : Hall :=
  (serve (Rules.ofSettings shortLived asCharacters true)
    (ofSettings shortLived {} (u64Max - 2)) [openQuiz]).2

/-- The quiz is there after a loop of one tick, and gone after a loop of two. A loop of three ticks
breaks off at the third. -/
theorem loop_sweeps_what_falls_due_at_the_last_tick :
    let rules := Rules.ofSettings shortLived asCharacters true
    asCharacters.Separates ∧ 0 ≤ lastChance.clock ∧
      ∃ id quiz one two broken, rules.derive 1 = .ok id ∧
        lastChance.stores.quiz? id = .ok (some quiz) ∧
        (Act.loop rules 6.0 1).run lastChance = (.ok (), one) ∧
        one.stores.quiz? id = .ok (some quiz) ∧
        (Act.loop rules 6.0 2).run lastChance = (.ok (), two) ∧ two.stores.quiz? id = .ok none ∧
        (Act.loop rules 6.0 3).run lastChance = (.error (.beyondU64 (u64Max + 1)), broken) ∧
        broken.stores = two.stores := by
  intro rules
  have hclock : lastChance.clock = (u64Max : Int) - 2 := rfl
  have hmin : 0 ≤ lastChance.clock := by decide
  let b : Creation := { openQuizCreation with clock := u64Max - 2 }
  have hhistory : deeds rules (ofSettings shortLived {} (u64Max - 2)) [openQuiz] = [.created b] :=
    rfl
  have hlives : Lives rules [.created b] b := ⟨[], [], rfl, by simp⟩
  have hdue : b.due rules = u64Max := rfl
  obtain ⟨hstored, -, hloop, hbeyond⟩ := loop_sweeps_what_falls_due shortLived asCharacters true {}
    (u64Max - 2) [openQuiz] 6.0 separates_asCharacters hmin
  rw [hhistory] at hstored hloop hbeyond
  obtain ⟨id, quiz, hid, hquiz, -, -⟩ := hstored b hlives
  obtain ⟨one, hone, hsweptOne, -⟩ := hloop 1 (by decide)
  obtain ⟨two, htwo, hsweptTwo, -⟩ := hloop 2 (by decide)
  obtain ⟨k, after, hk, -, hnext, hloop', hswept, hbroken, -⟩ :=
    hbeyond 3 (by decide) (by decide)
  have hstays : one.stores.quiz? id = .ok (some quiz) := by
    refine (hsweptOne.kept id fun b' hlives' hwithin _ => ?_).1.trans hquiz
    obtain rfl : b' = b := Deed.created.inj (List.mem_singleton.mp hlives'.created_mem)
    have hle : b.due rules ≤ lastChance.clock + 1 := hwithin.2
    omega
  have hgone : two.stores.quiz? id = .ok none :=
    (hsweptTwo.removed b id hlives ⟨by decide, by decide⟩ hid).1
  have hafter : after.clock = lastChance.clock + k := hswept.clock
  -- Of the three ticks just the first two have buckets.
  obtain rfl : k = 2 := by
    have hge : ¬ k < 2 := fun hlt => hnext ⟨by omega, by omega⟩
    omega
  obtain rfl : after = two := congrArg Prod.snd (hloop'.symm.trans htwo)
  have hlast : after.clock = u64Max := by omega
  rw [hlast] at hbroken
  exact ⟨separates_asCharacters, hmin, id, quiz, one, after, _, hid, hquiz, hone, hstays, htwo,
    hgone, hbroken, rfl⟩

end Hall

end QuizHall
