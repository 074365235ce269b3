import Mathlib.Data.List.Perm.Basic
import QuizHall.Proofs.Hall.Numbering

/-!
# Every Scheduled Deletion Is Delivered Once

The creation of a quiz puts its id into a bucket, and the tick that the bucket belongs to takes it
out again. In between an id is neither lost nor doubled: the ids that the ticks have delivered and
those that still stand in the buckets are together just the ids of the quizzes that were created.
Whether a quiz is still there when its id is delivered is of no importance, since an owner who
deletes it leaves its id in the bucket, and a creation that fails leaves none.

None of this needs a hash function that separates. If the ids of two quizzes are the same, the id
is delivered twice, and if the buckets of two ticks are the same, the first of them to be fired
delivers the ids of both.

## Main definitions

* `Gathered`, `Stores.Standing`: the ids in all buckets, taken together.
* `Hall.delivered`: the ids that the ticks of a run deliver, those of steps and loops included.
* `Delivers`: what is created and what is delivered from one view to another.

## Main results

* `Fired.delivers`, `Request.delivers`: every tick and every request passes on the ids of its
  bucket.
* `Hall.serve_delivers`: every run does.
* `Hall.delivered_once`: every scheduled deletion is delivered once.
-/

namespace QuizHall

/-! ### All buckets together -/

/-- Ids are **gathered** from all buckets if they are, in any order, what is in the buckets of a
list without repetitions, and all other buckets are empty. -/
def Gathered (bucket : String → List String) (ids : List String) : Prop :=
  ∃ names : List String, names.Nodup ∧ (∀ name, name ∉ names → bucket name = []) ∧
    (names.flatMap bucket).Perm ids

/-- The ids that **stand** in all buckets of stores. -/
def Stores.Standing (s : Stores) (ids : List String) : Prop :=
  ∃ bucket : String → List String, (∀ name, s.bucket name = .ok (bucket name)) ∧
    Gathered bucket ids

namespace Gathered

variable {bucket : String → List String} {ids : List String}

/-- Nothing is gathered from empty buckets. -/
theorem nil : Gathered (fun _ => []) [] := ⟨[], .nil, fun _ _ => rfl, .nil⟩

/-- It does not matter in which order ids are gathered. -/
theorem perm {ids' : List String} (h : Gathered bucket ids) (hids : ids.Perm ids') :
    Gathered bucket ids' := by
  obtain ⟨names, hnodup, hnone, hperm⟩ := h
  exact ⟨names, hnodup, hnone, hperm.trans hids⟩

/-- **What is gathered is what is in one bucket, and the rest.** Whatever happens to that bucket,
the rest stays. -/
theorem split (h : Gathered bucket ids) (name : String) :
    ∃ rest, ids.Perm (bucket name ++ rest) ∧ ∀ bucket' : String → List String,
      (∀ other, other ≠ name → bucket' other = bucket other) →
        Gathered bucket' (bucket' name ++ rest) := by
  obtain ⟨names, hnodup, hnone, hperm⟩ := h
  obtain ⟨others, hnodup', hnone', hperm'⟩ : ∃ others, (name :: others).Nodup ∧
      (∀ other, other ∉ name :: others → bucket other = []) ∧
        ids.Perm ((name :: others).flatMap bucket) := by
    by_cases hname : name ∈ names
    · have hsplit := List.perm_cons_erase hname
      refine ⟨names.erase name, hsplit.nodup_iff.mp hnodup, fun other hother => ?_, ?_⟩
      · exact hnone other fun hmem => hother (hsplit.mem_iff.mp hmem)
      · exact hperm.symm.trans (hsplit.flatMap_right bucket)
    · refine ⟨names, List.nodup_cons.mpr ⟨hname, hnodup⟩, fun other hother => ?_, ?_⟩
      · exact hnone other fun hmem => hother (List.mem_cons_of_mem name hmem)
      · rw [List.flatMap_cons, hnone name hname]
        exact hperm.symm
  refine ⟨others.flatMap bucket, hperm', fun bucket' hsame => ?_⟩
  have hothers : others.flatMap bucket' = others.flatMap bucket := by
    refine List.flatMap_congr fun other hmem => hsame other ?_
    rintro rfl
    exact (List.nodup_cons.mp hnodup').1 hmem
  refine ⟨name :: others, hnodup', fun other hother => ?_, ?_⟩
  · rw [hsame other fun heq => hother (heq ▸ List.mem_cons_self)]
    exact hnone' other hother
  · rw [List.flatMap_cons, hothers]

/-- An id that is scheduled is one more. -/
theorem scheduling {c : Contents} (h : Gathered c.bucket ids) (name id : String) :
    Gathered (c.scheduling name id).bucket (ids ++ [id]) := by
  obtain ⟨rest, hids, hrest⟩ := h.split name
  have hafter := hrest (c.scheduling name id).bucket fun other hother => by
    rw [Contents.bucket_scheduling, if_neg hother]
  rw [Contents.bucket_scheduling, if_pos rfl, List.append_assoc] at hafter
  have hswap : ([id] ++ rest).Perm (rest ++ [id]) := List.perm_append_comm
  have hall : (c.bucket name ++ (rest ++ [id])).Perm (ids ++ [id]) := by
    rw [← List.append_assoc]
    exact hids.symm.append_right [id]
  exact hafter.perm ((hswap.append_left _).trans hall)

/-- When a bucket expires, just its ids are missing. -/
theorem expiring {c : Contents} (h : Gathered c.bucket ids) (name : String) :
    ∃ rest, (c.bucket name ++ rest).Perm ids ∧ Gathered (c.expiring name).bucket rest := by
  obtain ⟨rest, hids, hrest⟩ := h.split name
  have hafter := hrest (c.expiring name).bucket fun other hother => by
    rw [Contents.bucket_expiring, if_neg hother]
  rw [Contents.bucket_expiring, if_pos rfl, List.nil_append] at hafter
  exact ⟨rest, hids.symm, hafter⟩

end Gathered

/-! ### What is delivered -/

namespace Hall

/-- The ids that are delivered when a tick is fired; none if that fails. -/
def deliveredAt (rules : Rules) (hall : Hall) (tick : Int) : List String :=
  ((Act.onTick rules tick).run hall).1.toOption.getD []

/-- The ids that are delivered by a step, which fires the tick that the clock moves on to. -/
def deliveredByStep (rules : Rules) (hall : Hall) : List String :=
  deliveredAt rules { hall with clock := hall.clock + 1 } (hall.clock + 1)

/-- The ids that are delivered by a number of steps, one after the other until one fails. -/
def deliveredBySteps (rules : Rules) (seconds : Float) (hall : Hall) : Nat → List String
  | 0 => []
  | n + 1 =>
    let rested := ((Act.nap seconds).run hall).2
    rested.deliveredByStep rules ++
      match (Act.step rules).run rested with
      | (.ok _, next) => deliveredBySteps rules seconds next n
      | (.error _, _) => []

end Hall

/-- The ids that are delivered by a request. -/
def Request.delivered (rules : Rules) (hall : Hall) : Request → List String
  | tick now => hall.deliveredAt rules now
  | step => hall.deliveredByStep rules
  | loop seconds n => hall.deliveredBySteps rules seconds n
  | _ => []

/-- The ids that are delivered by a list of requests, in their order. -/
def Hall.delivered (rules : Rules) (hall : Hall) : List Request → List String
  | [] => []
  | request :: rest =>
    request.delivered rules hall ++
      Hall.delivered rules ((request.act rules).run hall).2 rest

/-- How many deletions are published in a list of events. -/
def deletions (events : List Event) : Nat := events.countP fun event => event.kind = .deleted

/-- From one view to another some ids are put into buckets and some are **delivered**: what stands
in the buckets in the end is what stood there, with the new ids and without those delivered. Each
of these is announced once. -/
structure Delivers (rules : Rules) (v v' : View) (created delivered : List String) : Prop where
  /-- No id is lost or doubled. -/
  ids : ∀ standing, Gathered v.contents.bucket standing → ∃ standing',
    Gathered v'.contents.bucket standing' ∧ (delivered ++ standing').Perm (standing ++ created)
  /-- Every id that is delivered is announced. -/
  events : rules.keepsEvents = true →
    deletions v'.events = deletions v.events + delivered.length

namespace Delivers

variable {rules : Rules} {v v' v'' : View} {created delivered : List String}

/-- Where no bucket is changed and no deletion is published, nothing is delivered. -/
theorem nothing (hbuckets : v'.contents.buckets = v.contents.buckets)
    (hevents : deletions v'.events = deletions v.events) : Delivers rules v v' [] [] := by
  have hbucket : v'.contents.bucket = v.contents.bucket := by
    funext name
    rw [MemoryStore.bucket, MemoryStore.bucket, hbuckets]
  refine ⟨fun standing h => ⟨standing, ?_, ?_⟩, fun _ => hevents⟩
  · rw [hbucket]
    exact h
  · rw [List.nil_append, List.append_nil]

theorem refl (v : View) : Delivers rules v v [] [] := nothing rfl rfl

/-- What is delivered on two ways, one after the other. -/
theorem trans {created' delivered' : List String} (h : Delivers rules v v' created delivered)
    (h' : Delivers rules v' v'' created' delivered') :
    Delivers rules v v'' (created ++ created') (delivered ++ delivered') := by
  refine ⟨fun standing hstanding => ?_, fun hkeeps => ?_⟩
  · obtain ⟨standing', hstanding', hperm⟩ := h.ids standing hstanding
    obtain ⟨standing'', hstanding'', hperm'⟩ := h'.ids standing' hstanding'
    have hfirst := hperm.append_right created'
    have hsecond := hperm'.append_left delivered
    rw [← List.append_assoc, ← List.append_assoc] at hsecond
    rw [List.append_assoc standing] at hfirst
    exact ⟨standing'', hstanding'', hsecond.trans hfirst⟩
  · have hevents := h.events hkeeps
    have hevents' := h'.events hkeeps
    rw [List.length_append]
    omega

end Delivers

/-! ### Ticks -/

/-- The ids that are due at a tick, as far as the tick has a bucket. -/
def View.dueAt (rules : Rules) (v : View) (tick : Int) : List String :=
  ((rules.derive tick).map v.contents.bucket).toOption.getD []

/-- What comes of a tick is what is in its bucket. -/
theorem Fired.outcome_eq {rules : Rules} {tick : Int} {v v' : View}
    {outcome : Except Fault (List String)} (h : Fired rules tick v outcome v') :
    outcome = (rules.derive tick).map v.contents.bucket := by
  cases h with
  | refused htick =>
      rw [htick]
      rfl
  | done htick log =>
      rw [htick]
      rfl

/-- **A tick delivers what is due**, and announces as many deletions. -/
theorem Fired.delivers {rules : Rules} {tick : Int} {v v' : View}
    {outcome : Except Fault (List String)} (h : Fired rules tick v outcome v') :
    Delivers rules v v' [] (v.dueAt rules tick) := by
  cases h with
  | refused htick =>
      rw [View.dueAt, htick]
      exact .refl v
  | @done bucket htick log =>
      rw [View.dueAt, htick]
      refine ⟨fun standing hstanding => ?_, fun hkeeps => ?_⟩
      · obtain ⟨rest, hperm, hrest⟩ := hstanding.expiring bucket
        rw [List.append_nil]
        exact ⟨rest, hrest, hperm⟩
      · rw [deletions, Rules.kept_eq hkeeps, List.countP_append, List.countP_replicate]
        rfl

/-- A step delivers what is due at the next tick. -/
theorem Stepped.delivers {rules : Rules} {v v' : View} {outcome : Except Fault Int}
    (h : Stepped rules v outcome v') :
    Delivers rules v v' [] (v.dueAt rules (v.clock + 1)) := by
  cases h with
  | refused hfired =>
      have hdelivers := hfired.delivers
      exact ⟨hdelivers.ids, hdelivers.events⟩
  | done hfired log =>
      have hdelivers := hfired.delivers
      exact ⟨hdelivers.ids, hdelivers.events⟩

namespace Hall.Shows

variable {rules : Rules} {hall : Hall} {p : Places} {v : View}

/-- What a tick delivers is what is due at it. -/
theorem deliveredAt (h : hall.Shows p v) (tick : Int) :
    hall.deliveredAt rules tick = v.dueAt rules tick := by
  obtain ⟨outcome, v', htick, hfired⟩ := Act.Yields.onTick rules tick v
  rw [Hall.deliveredAt, htick.outcome_eq h, hfired.outcome_eq, View.dueAt]

/-- What a step delivers is what is due at the next tick. -/
theorem deliveredByStep (h : hall.Shows p v) :
    hall.deliveredByStep rules = v.dueAt rules (v.clock + 1) := by
  obtain ⟨hall', hrun, hshows⟩ := Act.Yields.advance v p hall h
  have hnext : ({ hall with clock := hall.clock + 1 } : Hall).Shows p
      { v with clock := v.clock + 1 } := by
    obtain rfl : { hall with clock := hall.clock + 1 } = hall' := congrArg Prod.snd hrun
    exact hshows
  rw [Hall.deliveredByStep, hnext.deliveredAt, h.clock]
  rfl

end Hall.Shows

/-! ### Steps, requests and runs -/

/-- What is published is no deletion, if it is something else. -/
theorem deletions_append_kept (rules : Rules) (events : List Event) {event : Event}
    (h : event.kind ≠ .deleted) :
    deletions (events ++ rules.kept [event]) = deletions events := by
  have hnone : deletions (rules.kept [event]) = 0 := by
    refine List.countP_eq_zero.mpr fun other hmem => ?_
    rw [List.mem_singleton.mp (Rules.mem_of_mem_kept hmem)]
    simpa using h
  rw [deletions, List.countP_append]
  exact congrArg (deletions events + ·) hnone

/-- **A number of steps** deliver what each of them delivers, until one fails. -/
theorem Act.steps_delivers (rules : Rules) (seconds : Float) (n : Nat) {hall : Hall} {p : Places}
    {v : View} (hshows : hall.Shows p v) :
    ∃ v', ((Act.steps rules seconds n).run hall).2.Shows p v' ∧
      Delivers rules v v' [] (hall.deliveredBySteps rules seconds n) := by
  induction n generalizing hall v with
  | zero => exact ⟨v, hshows, .refl v⟩
  | succ n ih =>
      obtain ⟨rested, hnap, hrested⟩ := Act.Yields.nap seconds v p hall hshows
      obtain ⟨outcome, v', hstep, hstepped⟩ :=
        Act.Yields.step rules { v with naps := ⟨v.clock, seconds⟩ :: v.naps }
      obtain ⟨next, hrun, hnext⟩ := hstep p rested hrested
      have hfirst : Delivers rules v v' [] (rested.deliveredByStep rules) := by
        have hdelivers := hstepped.delivers
        rw [hrested.deliveredByStep]
        exact ⟨hdelivers.ids, hdelivers.events⟩
      rw [Act.steps, Act.run_bind, hnap, Hall.deliveredBySteps, hnap]
      simp only [Act.run_bind, hrun]
      cases outcome with
      | error e =>
          rw [List.append_nil]
          exact ⟨v', hnext, hfirst⟩
      | ok tick =>
          obtain ⟨v'', hshows'', hrest⟩ := ih hnext
          exact ⟨v'', hshows'', hfirst.trans hrest⟩

/-- A creation puts the id of its quiz into a bucket, and one that fails puts none. -/
theorem Created.delivers {rules : Rules} {ctx : CallContext} {questions : List Question}
    {key : Answers} {gate : Json.Value} {v v' : View} {outcome : Except Fault Int}
    (h : Created rules ctx questions key gate v outcome v') :
    ∃ created, (outcome.toOption.toList.map rules.derive) = created.map .ok ∧
      Delivers rules v v' created [] := by
  cases h with
  | refused e => exact ⟨[], rfl, .refl v⟩
  | entered hquiz hentered =>
      cases hentered with
      | refused e log => exact ⟨[], rfl, .nothing rfl rfl⟩
      | @done id bucket hid hfree hkey hdue log =>
          refine ⟨[id], congrArg (fun x => [x]) hid, fun standing h => ?_, fun _ => ?_⟩
          · exact ⟨_, h.scheduling (c := v.contents.withQuiz id _ key) bucket id, .refl _⟩
          · exact deletions_append_kept rules v.events (by simp [Event.kind])

/-- The loop over the ticks delivers what its steps deliver. -/
theorem Act.ends_loop_delivers (rules : Rules) (seconds : Float) (n : Nat) {hall : Hall}
    {p : Places} {v : View} (hshows : hall.Shows p v) :
    (Act.loop rules seconds n).Ends hall fun _ after => ∃ v', after.Shows p v' ∧
      Delivers rules v v' [] (hall.deliveredBySteps rules seconds n) := by
  have hsteps : (Act.steps rules seconds n).Ends hall fun _ after => ∃ v', after.Shows p v' ∧
      Delivers rules v v' [] (hall.deliveredBySteps rules seconds n) :=
    Act.steps_delivers rules seconds n hshows
  refine .rescue (hsteps.imp fun outcome after hafter => ?_)
  cases outcome with
  | ok _ => exact hafter
  | error e =>
      obtain ⟨v', hshows', hdelivers⟩ := hafter
      obtain ⟨noted, hnote, hnoted⟩ := Act.Yields.note (.brokeOff e) systemUser v' p after hshows'
      refine .bind ?_
      rw [Act.Ends, hnote]
      exact .fail ⟨_, hnoted, hdelivers.ids, hdelivers.events⟩

/-- **What a request delivers**, and what it creates. -/
theorem Request.delivers (rules : Rules) (request : Request) {hall : Hall} {p : Places} {v : View}
    (hshows : hall.Shows p v) :
    (request.act rules).Ends hall fun outcome after => ∃ v' created, after.Shows p v' ∧
      (request.given? outcome).toList.map rules.derive = created.map .ok ∧
        Delivers rules v v' created (request.delivered rules hall) := by
  by_cases hloop : ∃ seconds n, request = .loop seconds n
  · obtain ⟨seconds, n, rfl⟩ := hloop
    refine .map ((Act.ends_loop_delivers rules seconds n hshows).imp fun outcome after hafter => ?_)
    obtain ⟨v', hshows', hdelivers⟩ := hafter
    exact ⟨v', [], hshows', rfl, hdelivers⟩
  obtain ⟨outcome, v', hact, hserved⟩ := Act.Yields.serves rules request v
  obtain ⟨hall', hrun, hshows'⟩ := hact p hall hshows
  rw [Act.Ends, hrun]
  refine ⟨v', ?_⟩
  cases hserved with
  | @create _ _ _ _ outcome _ hcreated =>
      obtain ⟨created, hids, hdelivers⟩ := hcreated.delivers
      refine ⟨created, hshows', ?_, hdelivers⟩
      cases outcome with
      | error e => exact hids
      | ok n => exact hids
  | attempt hattempted =>
      refine ⟨[], hshows', rfl, ?_⟩
      cases hattempted with
      | refused e => exact .refl v
      | done => exact .nothing rfl (deletions_append_kept rules v.events (by simp [Event.kind]))
  | delete hdeleted =>
      refine ⟨[], hshows', rfl, ?_⟩
      cases hdeleted with
      | refused e => exact .refl v
      | done => exact .nothing rfl rfl
  | tick hfired =>
      refine ⟨[], hshows', rfl, ?_⟩
      rw [Request.delivered, hshows.deliveredAt]
      exact hfired.delivers
  | advance => exact ⟨[], hshows', rfl, .nothing rfl rfl⟩
  | step hstepped =>
      refine ⟨[], hshows', rfl, ?_⟩
      rw [Request.delivered, hshows.deliveredByStep]
      exact hstepped.delivers
  | @loop seconds n => exact absurd ⟨seconds, n, rfl⟩ hloop
  | quiz sequence => exact ⟨[], hshows', rfl, .refl v⟩
  | rating account => exact ⟨[], hshows', rfl, .refl v⟩
  | latest => exact ⟨[], hshows', rfl, .refl v⟩
  | pending due => exact ⟨[], hshows', rfl, .refl v⟩

/-- **What a run delivers**, and what it creates. -/
theorem Hall.serve_delivers (rules : Rules) {hall : Hall} {p : Places} {v : View}
    (hshows : hall.Shows p v) (requests : List Request) :
    ∃ v' created, (serve rules hall requests).2.Shows p v' ∧
      (numbersGiven requests (serve rules hall requests).1).map rules.derive = created.map .ok ∧
        Delivers rules v v' created (hall.delivered rules requests) := by
  induction requests generalizing hall v with
  | nil => exact ⟨v, [], hshows, rfl, .refl v⟩
  | cons request rest ih =>
      obtain ⟨v', created, hshows', hids, hdelivers⟩ := request.delivers rules hshows
      obtain ⟨v'', created', hshows'', hids', hdelivers'⟩ := ih hshows'
      refine ⟨v'', created ++ created', hshows'', ?_, hdelivers.trans hdelivers'⟩
      rw [List.map_append, ← hids, ← hids', ← List.map_append]
      exact congrArg _ (numbersGiven_cons ..)

/-! ### A tick that was fired before -/

/-- No bucket is opened from one view to another: what has no entry before has none after. -/
def View.OpensNone (v v' : View) : Prop :=
  ∀ name, v.contents.buckets.find? name = none → v'.contents.buckets.find? name = none

/-- A tick that has a bucket removes it. -/
theorem Contents.find?_buckets_expiring (c : Contents) (bucket name : String) :
    (c.expiring bucket).buckets.find? name =
      if name = bucket then none else c.buckets.find? name := by
  rw [expiring, (foldl_withoutQuiz _ _).1]
  exact Table.find?_erase ..

/-- A tick opens no bucket. -/
theorem Fired.opensNone {rules : Rules} {tick : Int} {v v' : View}
    {outcome : Except Fault (List String)} (h : Fired rules tick v outcome v') :
    v.OpensNone v' := by
  cases h with
  | refused htick => exact fun _ hname => hname
  | @done bucket htick log =>
      intro name hname
      have hafter := v.contents.find?_buckets_expiring bucket name
      rw [hname, ite_self] at hafter
      exact hafter

/-- A step opens no bucket. -/
theorem Stepped.opensNone {rules : Rules} {v v' : View} {outcome : Except Fault Int}
    (h : Stepped rules v outcome v') : v.OpensNone v' := by
  cases h with
  | refused hfired => exact hfired.opensNone
  | done hfired log => exact hfired.opensNone

/-- A number of steps open no bucket. -/
theorem Looped.opensNone {rules : Rules} {n : Nat} {v v' : View} {outcome : Except Fault Unit}
    (h : Looped rules n v outcome v') : v.OpensNone v' := by
  induction h with
  | done v => exact fun _ hname => hname
  | broken naps hstepped => exact hstepped.opensNone
  | more naps hstepped _ ih => exact fun name hname => ih name (hstepped.opensNone name hname)

/-- **Only a creation that succeeds opens a bucket.** -/
theorem Served.opensNone {rules : Rules} {v v' : View} {request : Request}
    {outcome : Except Fault Answer} (h : Served rules v request outcome v')
    (hgiven : request.given? outcome = none) : v.OpensNone v' := by
  have hsame : v.OpensNone v := fun _ hname => hname
  cases h with
  | create hcreated =>
      cases hcreated with
      | refused e => exact hsame
      | entered hquiz hentered =>
          cases hentered with
          | refused e log => exact hsame
          | done => cases hgiven
  | attempt hattempted =>
      cases hattempted with
      | refused e => exact hsame
      | done => exact hsame
  | delete hdeleted =>
      cases hdeleted with
      | refused e => exact hsame
      | done => exact hsame
  | tick hfired => exact hfired.opensNone
  | advance => exact hsame
  | step hstepped => exact hstepped.opensNone
  | loop hlooped log => exact hlooped.opensNone
  | quiz sequence => exact hsame
  | rating account => exact hsame
  | latest => exact hsame
  | pending due => exact hsame

/-- A run in which no creation succeeds opens no bucket. -/
theorem Hall.serve_opensNone {rules : Rules} {hall : Hall} {p : Places} {v : View}
    (hshows : hall.Shows p v) {requests : List Request}
    (hgiven : numbersGiven requests (serve rules hall requests).1 = []) :
    ∃ v', (serve rules hall requests).2.Shows p v' ∧ v.OpensNone v' := by
  induction requests generalizing hall v with
  | nil => exact ⟨v, hshows, fun _ hname => hname⟩
  | cons request rest ih =>
      obtain ⟨outcome, v', hact, hserved⟩ := Act.Yields.serves rules request v
      obtain ⟨hall', hrun, hshows'⟩ := hact p hall hshows
      rw [serve, hrun] at hgiven ⊢
      rw [numbersGiven_cons, List.append_eq_nil_iff, Option.toList_eq_nil_iff] at hgiven
      obtain ⟨v'', hshows'', hrest⟩ := ih hshows' hgiven.2
      exact ⟨v'', hshows'', fun name hname => hrest name (hserved.opensNone hgiven.1 name hname)⟩

/-- Emptying a bucket that is not there changes nothing. -/
theorem Stores.Holds.drainBucket_of_none {s : Stores} {p : Places} {c : Contents}
    (h : s.Holds p c) {bucket : String} (hnone : c.buckets.find? bucket = none) :
    s.drainBucket bucket = .ok (.ok [], s) := by
  obtain ⟨-, hs⟩ | ⟨hp, hs, hopen⟩ := h.quizPlace
  · simp only [Stores.drainBucket, hs, MemoryStore.bucket, MemoryStore.removeBucket, hnone,
      Table.erase_of_find?_eq_none hnone, Option.getD_none]
    rw [← hs]
  · have hslot : s.keySpace.find? (Key.bucket bucket) = none := by
      have hentry := h.slot (.bucket bucket) (decide_eq_true hp)
      rwa [Contents.entryOf?, hnone] at hentry
    simp only [Stores.drainBucket, hs, readKeys_of_isOpen hopen, writeKeys_of_isOpen hopen,
      KeySpace.items, KeySpace.removeKey, hslot, Table.erase_of_find?_eq_none hslot]
    rw [← hs]
    rfl

/-- Firing a tick without an entry for its bucket gives nothing and changes nothing. -/
theorem Hall.Shows.run_fire_of_none {rules : Rules} {hall : Hall} {p : Places} {v : View}
    (h : hall.Shows p v) {tick : Int} {bucket : String} (htick : rules.derive tick = .ok bucket)
    (hnone : v.contents.buckets.find? bucket = none) :
    (rules.schedule.fire tick).run hall = (.ok [], hall) := by
  have hdrain : (Act.drainBucket bucket).run hall = (.ok [], hall) := by
    rw [Act.drainBucket, Act.run_bind, Call.run_writing (h.inOrder _),
      h.stores.drainBucket_of_none hnone]
    rfl
  have hderive : rules.schedule.derive tick = .ok bucket := htick
  rw [Schedule.fire, hderive, Act.run_bind]
  simp only [Act.run_ofExcept, Act.run_bind, hdrain]
  rfl

/-- **A tick without an entry for its bucket does nothing** at all. -/
theorem Hall.Shows.run_onTick_of_none {rules : Rules} {hall : Hall} {p : Places} {v : View}
    (h : hall.Shows p v) {tick : Int} {bucket : String} (htick : rules.derive tick = .ok bucket)
    (hnone : v.contents.buckets.find? bucket = none) :
    (Act.onTick rules tick).run hall = (.ok [], hall) := by
  rw [Act.onTick, Act.run_locked, Act.expire, Act.run_bind, h.run_fire_of_none htick hnone]
  rfl

/-! ### Everything that is scheduled -/

/-- A creation that fails leaves the contents as they were. -/
theorem Created.contents_of_error {rules : Rules} {ctx : CallContext} {questions : List Question}
    {key : Answers} {gate : Json.Value} {v v' : View} {e : Fault}
    (h : Created rules ctx questions key gate v (.error e) v') : v'.contents = v.contents := by
  cases h with
  | refused e => rfl
  | entered hquiz hentered => cases hentered with
    | refused e log => rfl

/-- A deletion leaves all buckets as they were, whether it succeeds or not. -/
theorem Deleted.bucket {rules : Rules} {ctx : CallContext} {sequence : Int} {v v' : View}
    {outcome : Except Fault Unit} (h : Deleted rules ctx sequence v outcome v') :
    v'.contents.bucket = v.contents.bucket := by
  cases h with
  | refused e => rfl
  | done => rfl

namespace Hall

/-- **Every scheduled deletion is delivered once.** After every run from empty stores, the ids that
the ticks have delivered so far and those that still stand in the buckets are together just the ids
of the quizzes that were created. A creation that fails and a deletion by an owner change no bucket,
and as many deletions are published as ids were delivered.

Once a tick of 64 bits was fired, none of the ids that it gave has a quiz or a key. Until the next
creation that succeeds, the same tick gives no ids any more and leaves the hall just as it is,
whatever else happens in between. -/
theorem delivered_once (settings : Settings) (hash : HashService) (keepsEvents : Bool)
    (ledger : Ledger) (clock : Int) (requests : List Request) :
    let rules := Rules.ofSettings settings hash keepsEvents
    let start := ofSettings settings ledger clock
    let last := (serve rules start requests).2
    (∃ created standing,
      (numbersGiven requests (serve rules start requests).1).map rules.derive = created.map .ok ∧
        last.stores.Standing standing ∧
        (start.delivered rules requests ++ standing).Perm created) ∧
    (keepsEvents = true →
      deletions last.events = (start.delivered rules requests).length) ∧
    (∀ ctx questions key gate fault after,
      (Act.create rules ctx questions key gate).run last = (.error fault, after) →
        ∀ bucket, after.stores.bucket bucket = last.stores.bucket bucket) ∧
    (∀ ctx sequence outcome after, (Act.delete rules ctx sequence).run last = (outcome, after) →
      ∀ bucket, after.stores.bucket bucket = last.stores.bucket bucket) ∧
    ∀ tick, IsU64 tick → ∃ ids after, (Act.onTick rules tick).run last = (.ok ids, after) ∧
      (∀ id ∈ ids, after.stores.quiz? id = .ok none ∧ after.stores.key? id = .ok none) ∧
      ∀ more, numbersGiven more (serve rules after more).1 = [] →
        let again := (serve rules after more).2
        (Act.onTick rules tick).run again = (.ok [], again) := by
  intro rules start last
  have hshows : start.Shows settings.places { contents := {}, ledger, clock } :=
    shows_ofSettings settings ledger clock
  obtain ⟨v, created, hlast, hids, hdelivers⟩ := serve_delivers rules hshows requests
  refine ⟨?_, ?_, ?_, ?_, ?_⟩
  · obtain ⟨standing, hstanding, hperm⟩ := hdelivers.ids [] .nil
    exact ⟨created, standing, hids, ⟨v.contents.bucket, hlast.stores.bucket, hstanding⟩, hperm⟩
  · intro hkeeps
    have hevents := hdelivers.events hkeeps
    rw [← hlast.events] at hevents
    exact hevents.trans (Nat.zero_add _)
  · intro ctx questions key gate fault after hrun bucket
    obtain ⟨outcome, v', hact, hcreated⟩ := Act.Yields.create rules ctx questions key gate v
    obtain ⟨after', hrun', hafter⟩ := hact _ _ hlast
    obtain ⟨rfl, rfl⟩ := Prod.mk.inj (hrun.symm.trans hrun')
    rw [hafter.stores.bucket, hcreated.contents_of_error, hlast.stores.bucket]
  · intro ctx sequence outcome after hrun bucket
    obtain ⟨outcome', v', hact, hdeleted⟩ := Act.Yields.delete rules ctx sequence v
    obtain ⟨after', hrun', hafter⟩ := hact _ _ hlast
    obtain ⟨rfl, rfl⟩ := Prod.mk.inj (hrun.symm.trans hrun')
    rw [hafter.stores.bucket, hdeleted.bucket, hlast.stores.bucket]
  · intro tick htick
    obtain ⟨outcome, v', hact, hfired⟩ := Act.Yields.onTick rules tick v
    obtain ⟨after, hrun, hafter⟩ := hact _ _ hlast
    have hbucket : rules.derive tick = .ok (rules.idOf tick) := Rules.derive_of_isU64 htick
    cases hfired with
    | refused herror => cases hbucket.symm.trans herror
    | @done bucket hderive log =>
        refine ⟨_, after, hrun, fun id hid => ⟨?_, ?_⟩, fun more hmore => ?_⟩
        · rw [hafter.stores.quiz?, Contents.quizzes_expiring, if_pos hid]
        · rw [hafter.stores.key?, Contents.keys_expiring, if_pos hid]
        · obtain ⟨v'', hagain, hopens⟩ := serve_opensNone hafter hmore
          refine hagain.run_onTick_of_none hderive (hopens bucket ?_)
          rw [Contents.find?_buckets_expiring, if_pos rfl]

/-- The digest that is the same for all byte strings. -/
def oneForAll : HashService := fun _ => "same"

/-- A quiz is created, deleted by its owner and created again. Then a tick is fired at which neither
of the two falls due. -/
def sameIdTwice : List Request :=
  [openQuiz, .delete ⟨some "owner"⟩ 1, openQuiz, .tick 3]

/-- If all ids are the same, the first tick that is fired delivers everything, and delivers nothing
when it is fired again. -/
theorem delivered_once_sameIdTwice :
    let rules := Rules.ofSettings default oneForAll true
    let last := (serve rules (ofSettings default) sameIdTwice).2
    (ofSettings default).delivered rules sameIdTwice = ["same", "same"] ∧
      deletions last.events = 2 ∧ IsU64 3 ∧
      ∃ ids after, (Act.onTick rules 3).run last = (.ok ids, after) ∧
        (Act.onTick rules 3).run after = (.ok [], after) := by
  intro rules last
  have hdelivered : (ofSettings default).delivered rules sameIdTwice = ["same", "same"] := by
    decide +kernel
  obtain ⟨-, hevents, -, -, hticks⟩ := delivered_once default oneForAll true {} 0 sameIdTwice
  have htick : IsU64 3 := by decide
  obtain ⟨ids, after, hrun, -, hagain⟩ := hticks 3 htick
  refine ⟨hdelivered, ?_, htick, ids, after, hrun, hagain [] rfl⟩
  rw [hevents rfl, hdelivered]
  rfl

end Hall

end QuizHall
