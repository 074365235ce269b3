import Mathlib.Data.List.DropRight
import QuizHall.Proofs.Hall.InOrder
import QuizHall.Proofs.Hall.Soundness
import QuizHall.Proofs.Identifier

/-!
# The Schedule Is a Family of Queues

The schedule of a hall keeps its buckets under ids that are digests, in memory or as lists of bytes
in a key space. Seen from outside it is something simpler: one queue of ids for every tick. This
module says so for all sequences of calls. A queue is described by nothing but the calls that were
made before: `awaiting` reads off a history what has been scheduled for a tick since the tick was
fired last.

Histories grow at their end, and so the induction over them is from the end: one more call is added
to a history after which the buckets are the queues of the history. The hash function has to tell
ticks apart, since two ticks with the same id would share their bucket.

## Main definitions

* `ScheduleCall`, `ScheduleCall.act`, `ScheduleCall.answer`: the calls, what a hall does with them,
  and what their answers have to be after a history.
* `awaiting`: the queue of a tick after a history.
* `Hall.Queued`: what a call may do to a hall.

## Main results

* `Hall.queued_after`: after every history, every call is answered from the queues.
-/

namespace QuizHall

/-! ### Calls and queues -/

/-- A call of the schedule. -/
inductive ScheduleCall where
  /-- Schedule an id at a tick. -/
  | schedule (now : Int) (id : String)
  /-- Fire a tick. -/
  | fire (tick : Int)
  /-- Show what is scheduled for a tick. -/
  | pending (tick : Int)
  deriving DecidableEq

/-- What the schedule answers. -/
inductive ScheduleAnswer where
  /-- The tick at which an id falls due. -/
  | due (tick : Int)
  /-- The ids of a tick. -/
  | ids (ids : List String)
  deriving DecidableEq

namespace ScheduleCall

/-- What a hall does with a call. -/
def act (s : Schedule) : ScheduleCall → Act ScheduleAnswer
  | schedule now id => .due <$> s.add now id
  | fire tick => .ids <$> s.fire tick
  | pending tick => .ids <$> s.pending tick

/-- The id that a call adds to the queue of a tick, if ids fall due after a delay. -/
def entry? (delay tick : Int) : ScheduleCall → Option String
  | schedule now id => if now + delay = tick then some id else none
  | fire _ | pending _ => none

end ScheduleCall

/-- **The queue of a tick** after a history: the ids that were scheduled for it since it was fired
last, in the order in which they were scheduled. -/
def awaiting (delay tick : Int) (history : List ScheduleCall) : List String :=
  (history.rtakeWhile (· ≠ .fire tick)).filterMap (ScheduleCall.entry? delay tick)

namespace ScheduleCall

/-- The tick that a call is about. -/
def tick (delay : Int) : ScheduleCall → Int
  | schedule now _ => now + delay
  | fire tick | pending tick => tick

/-- A call is **idle** if it only shows a queue, or if there is no such tick. -/
def Idle (delay : Int) (call : ScheduleCall) : Prop :=
  (∃ tick, call = .pending tick) ∨ ¬ IsU64 (call.tick delay)

/-- What has to be answered to a call after a history. -/
def answer (delay : Int) (history : List ScheduleCall) (call : ScheduleCall) :
    Except Fault ScheduleAnswer :=
  if IsU64 (call.tick delay) then
    match call with
    | schedule now _ => .ok (.due (now + delay))
    | fire tick | pending tick => .ok (.ids (awaiting delay tick history))
  else .error (.beyondU64 (call.tick delay))

end ScheduleCall

/-- An id joins the queue of the tick at which it falls due, and no other one. -/
theorem awaiting_schedule (delay tick : Int) (history : List ScheduleCall) (now : Int)
    (id : String) :
    awaiting delay tick (history ++ [.schedule now id]) =
      if now + delay = tick then awaiting delay tick history ++ [id]
      else awaiting delay tick history := by
  rw [awaiting, List.rtakeWhile_concat_pos _ _ _ (by simp), List.filterMap_append]
  by_cases hdue : now + delay = tick
  · have hentry : ScheduleCall.entry? delay tick (.schedule now id) = some id := if_pos hdue
    rw [if_pos hdue, List.filterMap_cons_some hentry]
    rfl
  · have hentry : ScheduleCall.entry? delay tick (.schedule now id) = none := if_neg hdue
    rw [if_neg hdue, List.filterMap_cons_none hentry]
    exact List.append_nil _

/-- Firing a tick clears its queue, and no other one. -/
theorem awaiting_fire (delay tick : Int) (history : List ScheduleCall) (fired : Int) :
    awaiting delay tick (history ++ [.fire fired]) =
      if fired = tick then [] else awaiting delay tick history := by
  by_cases hfired : fired = tick
  · rw [awaiting, List.rtakeWhile_concat_neg _ _ _ (by simp [hfired]), if_pos hfired]
    rfl
  · rw [awaiting, List.rtakeWhile_concat_pos _ _ _ (by simp [hfired]), List.filterMap_append,
      if_neg hfired]
    exact List.append_nil _

/-- Looking at a queue changes none. -/
theorem awaiting_pending (delay tick : Int) (history : List ScheduleCall) (shown : Int) :
    awaiting delay tick (history ++ [.pending shown]) = awaiting delay tick history := by
  rw [awaiting, List.rtakeWhile_concat_pos _ _ _ (by simp), List.filterMap_append]
  exact List.append_nil _

/-! ### What a call does -/

namespace Hall

/-- The buckets of a hall **are the queues** of a history if they read as what awaits their
ticks. -/
def QueuesOf (rules : Rules) (history : List ScheduleCall) (hall : Hall) : Prop :=
  ∀ tick, IsU64 tick →
    hall.stores.bucket (rules.idOf tick) = .ok (awaiting rules.delay tick history)

/-- What a call has to come to in a hall whose buckets are the queues of a history. -/
structure Queued (rules : Rules) (history : List ScheduleCall) (call : ScheduleCall)
    (before : Hall) (outcome : Except Fault ScheduleAnswer) (after : Hall) : Prop where
  /-- The call is answered from the queues. -/
  answered : outcome = call.answer rules.delay history
  /-- Who is refused is told that a value is of no use. -/
  kind : ∀ e, outcome = .error e → e.kind = .badValue
  /-- The buckets are the queues of the history with the call. -/
  queues : after.QueuesOf rules (history ++ [call])
  /-- Nothing but one bucket is touched in the stores. -/
  frame : ∀ slot, slot ≠ .bucket (rules.idOf (call.tick rules.delay)) →
    before.stores.AgreeOn after.stores slot
  /-- Nothing but the stores and the log is touched in the hall. -/
  rest : after = { before with stores := after.stores, log := after.log }
  /-- An idle call touches nothing at all. -/
  idle : call.Idle rules.delay → after = before

variable {rules : Rules} {history : List ScheduleCall} {hall : Hall}

/-- An idle call leaves the queues as they are. -/
theorem QueuesOf.idle (h : hall.QueuesOf rules history) {call : ScheduleCall}
    (hidle : call.Idle rules.delay) : hall.QueuesOf rules (history ++ [call]) := by
  intro tick htick
  refine (h tick htick).trans (congrArg Except.ok (Eq.symm ?_))
  obtain ⟨shown, rfl⟩ | hnone := hidle
  · exact awaiting_pending ..
  have hother : call.tick rules.delay ≠ tick := fun heq => hnone (heq.symm ▸ htick)
  cases call with
  | pending shown => exact awaiting_pending ..
  | schedule now id => exact (awaiting_schedule ..).trans (if_neg hother)
  | fire fired => exact (awaiting_fire ..).trans (if_neg hother)

/-- A call that changes nothing, because it is idle. -/
theorem QueuesOf.queued (h : hall.QueuesOf rules history) {call : ScheduleCall}
    (hidle : call.Idle rules.delay) {outcome : Except Fault ScheduleAnswer}
    (hanswer : call.answer rules.delay history = outcome)
    (hkind : ∀ e, outcome = .error e → e.kind = .badValue) :
    hall.Queued rules history call outcome hall where
  answered := hanswer.symm
  kind := hkind
  queues := h.idle hidle
  frame := fun slot _ => .refl hall.stores slot
  rest := rfl
  idle := fun _ => rfl

/-- A call that goes through, and changes a bucket. -/
theorem Queued.of_changed {call : ScheduleCall} {answer : ScheduleAnswer} {stores : Stores}
    (log : List LogRecord) (hbusy : ¬ call.Idle rules.delay)
    (hanswer : call.answer rules.delay history = .ok answer)
    (hqueues : QueuesOf rules (history ++ [call]) { hall with stores, log })
    (hframe : ∀ slot, slot ≠ .bucket (rules.idOf (call.tick rules.delay)) →
      hall.stores.AgreeOn stores slot) :
    hall.Queued rules history call (.ok answer) { hall with stores, log } where
  answered := hanswer.symm
  kind := fun e he => by cases he
  queues := hqueues
  frame := hframe
  rest := rfl
  idle := fun hidle => absurd hidle hbusy

/-- A call whose tick has no bucket is refused. -/
theorem QueuesOf.refused (h : hall.QueuesOf rules history) {call : ScheduleCall}
    (htick : ¬ IsU64 (call.tick rules.delay)) :
    hall.Queued rules history call (.error (.beyondU64 (call.tick rules.delay))) hall := by
  refine h.queued (.inr htick) (if_neg htick) fun e he => ?_
  obtain rfl := Except.error.inj he
  exact ite_self _

/-- A queue is shown. -/
theorem QueuesOf.shown (h : hall.QueuesOf rules history) {tick : Int} (htick : IsU64 tick) :
    hall.Queued rules history (.pending tick) (.ok (.ids (awaiting rules.delay tick history)))
      hall :=
  h.queued (.inl ⟨tick, rfl⟩) (if_pos htick) fun e he => by cases he

/-- An id is scheduled: it stands last in the queue of its tick. -/
theorem QueuesOf.scheduled (h : hall.QueuesOf rules history) (hsep : rules.hash.Separates)
    {now : Int} {id : String} {stores : Stores} (log : List LogRecord)
    (hdue : IsU64 (now + rules.delay))
    (happend : hall.stores.appendBucket (rules.idOf (now + rules.delay)) id = .ok stores) :
    hall.Queued rules history (.schedule now id) (.ok (.due (now + rules.delay)))
      { hall with stores, log } := by
  have hbusy : ¬ (ScheduleCall.schedule now id).Idle rules.delay := by
    simpa [ScheduleCall.Idle, ScheduleCall.tick] using hdue
  refine .of_changed log hbusy (if_pos hdue) (fun tick htick => ?_)
    fun slot hslot => Stores.agreeOn_appendBucket happend hslot
  refine (Stores.bucket_appendBucket happend (h tick htick)).trans (congrArg Except.ok ?_)
  rw [awaiting_schedule]
  exact if_congr ((Rules.idOf_inj_iff hsep htick hdue).trans eq_comm) rfl rfl

/-- A tick is fired: its queue is given and cleared. -/
theorem QueuesOf.fired (h : hall.QueuesOf rules history) (hsep : rules.hash.Separates)
    {tick : Int} {ids? : Except Fault (List String)} {stores : Stores} (log : List LogRecord)
    (htick : IsU64 tick) (hdrain : hall.stores.drainBucket (rules.idOf tick) = .ok (ids?, stores)) :
    hall.Queued rules history (.fire tick) (.ok (.ids (awaiting rules.delay tick history)))
      { hall with stores, log } := by
  have hbusy : ¬ (ScheduleCall.fire tick).Idle rules.delay := by
    simpa [ScheduleCall.Idle, ScheduleCall.tick] using htick
  refine .of_changed log hbusy (if_pos htick) (fun other hother => ?_)
    fun slot hslot => Stores.agreeOn_drainBucket hdrain hslot
  refine (Stores.bucket_drainBucket hdrain (h other hother)).trans (congrArg Except.ok ?_)
  rw [awaiting_fire]
  exact if_congr ((Rules.idOf_inj_iff hsep hother htick).trans eq_comm) rfl rfl

/-- **One more call** is answered from the queues, and leaves the queues of the longer history. -/
theorem QueuesOf.ends_act (h : hall.QueuesOf rules history) (hsep : rules.hash.Separates)
    (inOrder : ∀ call, hall.outages.find? call = none) (call : ScheduleCall) :
    (call.act rules.schedule).Ends hall (hall.Queued rules history call) := by
  cases call with
  | schedule now id =>
      -- Buckets that can be read are in reach, and they are no texts.
      have hreach : hall.stores.Reachable := .of_bucket (h 0 (by decide))
      refine .map (.add_eq (inOrder .bucketAppend) hreach (fun hnone => h.refused hnone)
        (fun hdue htext => ?_) fun hdue _ stores log happend => h.scheduled hsep log hdue happend)
      cases htext.symm.trans (Stores.hasTextFor_of_bucket (h _ hdue))
  | fire tick =>
      exact .map (.fire_eq (inOrder .bucketDrain) (fun hnone => h.refused hnone) (h tick)
        fun htick stores log hdrain => h.fired hsep log htick hdrain)
  | pending tick =>
      refine .map (.bind (.derive_eq (fun hnone => h.refused hnone) fun htick => ?_))
      exact .reading_eq (inOrder .bucketGet) (h tick htick) (h.shown htick)

/-! ### Whole histories -/

/-- **After every history the buckets are its queues**, and the calls that were in order still
are. -/
theorem queuesOf_after (hsep : rules.hash.Separates)
    (inOrder : ∀ call, hall.outages.find? call = none)
    (hempty : ∀ bucket, hall.stores.bucket bucket = .ok []) (history : List ScheduleCall) :
    (hall.after (ScheduleCall.act rules.schedule) history).QueuesOf rules history ∧
      (hall.after (ScheduleCall.act rules.schedule) history).outages = hall.outages := by
  refine after_induction
    (P := fun history after => after.QueuesOf rules history ∧ after.outages = hall.outages)
    ⟨fun tick _ => hempty (rules.idOf tick), rfl⟩ (fun history call before hbefore => ?_) history
  obtain ⟨hqueues, houtages⟩ := hbefore
  have hcall := hqueues.ends_act hsep (fun c => houtages ▸ inOrder c) call
  exact ⟨hcall.queues, (congrArg Hall.outages hcall.rest).trans houtages⟩

/-- **The schedule is a family of queues.** In a hall whose buckets are empty, whatever calls are
made of the schedule, the next one is answered from the queues of the calls before it, and the
buckets are the queues of all of them. A number that is no tick of 64 bits is refused. -/
theorem queued_after (rules : Rules) (hsep : rules.hash.Separates)
    (inOrder : ∀ call, hall.outages.find? call = none)
    (hempty : ∀ bucket, hall.stores.bucket bucket = .ok []) (history : List ScheduleCall)
    (call : ScheduleCall) :
    let before := hall.after (ScheduleCall.act rules.schedule) history
    let result := (call.act rules.schedule).run before
    before.Queued rules history call result.1 result.2 := by
  obtain ⟨hqueues, houtages⟩ := queuesOf_after hsep inOrder hempty history
  exact hqueues.ends_act hsep (fun c => houtages ▸ inOrder c) call

/-- In a new hall with a key space, two ids are scheduled for one tick, one of them twice. The tick
gives all three in their order. There is no tick before the first one. -/
theorem queued_after_three_schedulings :
    let rules := Rules.ofSettings inKeySpace asCharacters true
    let new := ofSettings inKeySpace
    let before := new.after (ScheduleCall.act rules.schedule)
      [.schedule 1 "a", .schedule 1 "b", .schedule 1 "a"]
    (rules.hash.Separates ∧ (∀ call, new.outages.find? call = none) ∧
      ∀ bucket, new.stores.bucket bucket = .ok []) ∧
    ((ScheduleCall.act rules.schedule (.fire 11)).run before).1 = .ok (.ids ["a", "b", "a"]) ∧
    ((ScheduleCall.act rules.schedule (.pending (-1))).run before).1 =
      .error (.beyondU64 (-1)) := by
  intro rules new before
  have inOrder : ∀ call, new.outages.find? call = none := fun _ => rfl
  have hempty : ∀ bucket, new.stores.bucket bucket = .ok [] :=
    (Stores.Holds.ofSettings inKeySpace).bucket
  have h := queued_after rules separates_asCharacters inOrder hempty
    [.schedule 1 "a", .schedule 1 "b", .schedule 1 "a"]
  exact ⟨⟨separates_asCharacters, inOrder, hempty⟩, (h (.fire 11)).answered,
    (h (.pending (-1))).answered⟩

end Hall

end QuizHall
