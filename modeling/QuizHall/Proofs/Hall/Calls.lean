import QuizHall.Proofs.Hall.Ending

/-!
# The Calls of an Operation

An operation that is alone in a hall makes its calls one after the other, and which ones it makes
depends on what it has found so far: an attempt that gets everything right does not ask for a
balance, and nothing is removed by a creation unless it has to be undone. The calls are read off the
steps that the operation takes, since each call shows itself by having its answer awaited.

For operations that are made of others the calls are those of the first and, if it goes that far,
those of the second. What an operation does not call is told by the calls that are written in it,
wherever it begins.

## Main results

* `Act.calls`: the calls that an operation makes from a hall.
* `Act.calls_bind_of_ok`: the calls of two operations, if the first one answers.
* `Act.mem_calls_bind`, `Act.mem_calls_rescue`: the calls of operations that are made of others.
* `Act.notMem_calls_pay`, `Act.notMem_calls_place`, `Act.notMem_calls_add`: the steps of attempts
  and creations make no calls but their own.
* `Act.count_drain_onTick`: a tick empties one bucket.
-/

namespace QuizHall

variable {α β : Type}

namespace Act

/-- The calls that an operation makes which is alone in a hall, in their order. -/
def calls : Act α → Hall → List Call
  | answer _, _ => []
  | fail _, _ => []
  | look k, hall => (k hall).calls hall
  | leave hall k, _ => k.calls hall
  | await (.call call) k, hall => call :: k.calls hall
  | await .tick k, hall => k.calls hall
  | acquire k, hall => k.calls hall
  | release k, hall => k.calls hall

/-- What follows an operation makes its calls after those of the operation. -/
theorem calls_follow (act : Act α) (next : Except Fault α → Act β) (hall : Hall) :
    (act.follow next).calls hall =
      act.calls hall ++ (next (act.run hall).1).calls (act.run hall).2 := by
  induction act generalizing hall with
  | answer a => rfl
  | fail e => rfl
  | look k ih => exact ih hall hall
  | leave hall' k ih => exact ih hall'
  | await w k ih =>
      cases w with
      | call call => exact congrArg (call :: ·) (ih hall)
      | tick => exact ih hall
  | acquire k ih => exact ih hall
  | release k ih => exact ih hall

/-- What follows the answer of an operation makes its calls after those of the operation. -/
theorem calls_bind_of_ok {act : Act α} {next : α → Act β} {a : α} {hall after : Hall}
    (h : act.run hall = (.ok a, after)) :
    (act >>= next).calls hall = act.calls hall ++ (next a).calls after := by
  change (act.follow _).calls hall = _
  rw [calls_follow, h]

/-- What makes no calls of its own adds none to those of an operation that it follows. -/
theorem calls_bind_of_silent {act : Act α} {next : α → Act β} {hall : Hall}
    (hnext : ∀ a after, (next a).calls after = []) :
    (act >>= next).calls hall = act.calls hall := by
  change (act.follow _).calls hall = _
  rw [calls_follow]
  cases act.run hall with
  | mk outcome after =>
      cases outcome with
      | ok a => rw [hnext, List.append_nil]
      | error e => exact List.append_nil _

/-- A call of two operations is one of the first, or of the second if the first has answered. -/
theorem mem_calls_bind {act : Act α} {next : α → Act β} {hall : Hall} {call : Call} :
    call ∈ (act >>= next).calls hall ↔ call ∈ act.calls hall ∨
      ∃ a after, act.run hall = (.ok a, after) ∧ call ∈ (next a).calls after := by
  change call ∈ (act.follow _).calls hall ↔ _
  rw [calls_follow, List.mem_append]
  cases act.run hall with
  | mk outcome after =>
      cases outcome with
      | ok a =>
          refine or_congr_right ⟨fun h => ⟨a, after, rfl, h⟩, ?_⟩
          rintro ⟨a', after', heq, h⟩
          cases heq
          exact h
      | error e => simp [calls]

/-- A call of an operation with somebody to handle its faults is one of the operation, or of the
handler if the operation has failed. -/
theorem mem_calls_rescue {act : Act α} {handler : Fault → Act α} {hall : Hall} {call : Call} :
    call ∈ (act.rescue handler).calls hall ↔ call ∈ act.calls hall ∨
      ∃ e after, act.run hall = (.error e, after) ∧ call ∈ (handler e).calls after := by
  rw [rescue, calls_follow, List.mem_append]
  cases act.run hall with
  | mk outcome after =>
      cases outcome with
      | ok a => simp [calls]
      | error e =>
          refine or_congr_right ⟨fun h => ⟨e, after, rfl, h⟩, ?_⟩
          rintro ⟨e', after', heq, h⟩
          cases heq
          exact h

@[simp] theorem calls_pure (a : α) (hall : Hall) : (pure a : Act α).calls hall = [] := rfl

@[simp] theorem calls_map (f : α → β) (act : Act α) (hall : Hall) :
    (f <$> act).calls hall = act.calls hall := by
  rw [map_eq_pure_bind]
  change (act.follow _).calls hall = _
  rw [calls_follow]
  cases act.run hall with
  | mk outcome after =>
      cases outcome with
      | ok a => exact List.append_nil _
      | error e => exact List.append_nil _

@[simp] theorem calls_throw (e : Fault) (hall : Hall) : (throw e : Act α).calls hall = [] := rfl

@[simp] theorem calls_note (notice : Notice) (user : String) (hall : Hall) :
    (note notice user).calls hall = [] := rfl

@[simp] theorem calls_ofExcept (x : Except Fault α) (hall : Hall) :
    (ofExcept x).calls hall = [] := by
  cases x <;> rfl

@[simp] theorem calls_ensure (p : Prop) [Decidable p] (fault : Fault) (hall : Hall) :
    (ensure p fault).calls hall = [] := by
  unfold ensure
  split <;> rfl

@[simp] theorem calls_found (fault : Fault) (a? : Option α) (hall : Hall) :
    (found fault a?).calls hall = [] := by
  cases a? <;> rfl

/-- The lock is no call. -/
@[simp] theorem calls_locked (act : Act α) (hall : Hall) :
    act.locked.calls hall = act.calls hall := by
  change (act.follow _).calls hall = _
  rw [calls_follow]
  exact (congrArg _ (calls_ofExcept _ _)).trans (List.append_nil _)

end Act

/-- A call that is in order is made, and nothing else. -/
theorem Call.calls_writing {call : Call} {hall : Hall} (inOrder : hall.outages.find? call = none)
    (f : Hall → Except Fault (α × Hall)) : (call.writing f).calls hall = [call] := by
  simp only [writing, Act.calls, inOrder]
  cases f hall <;> rfl

/-- A call makes no other call. -/
theorem Call.notMem_writing {call other : Call} (h : other ≠ call) {hall : Hall}
    {f : Hall → Except Fault (α × Hall)} : other ∉ (call.writing f).calls hall := by
  cases hout : hall.outages.find? call with
  | some kind => simp [writing, Act.calls, hout]
  | none => simpa [calls_writing hout] using h

namespace Act

variable {call : Call} {hall : Hall}

/-- A payment asks for the balance and makes the transfer. -/
theorem notMem_calls_pay {payer owner : String} {amount : Int} (hbalance : call ≠ .balanceGet)
    (htransfer : call ≠ .transfer) : call ∉ (pay payer owner amount).calls hall := by
  rw [pay]
  split
  · simp
  · rw [mem_calls_bind]
    rintro (hmem | ⟨free, after, -, hmem⟩)
    · rw [balance, Call.reading] at hmem
      exact Call.notMem_writing hbalance hmem
    · rcases mem_calls_bind.mp hmem with hmem | ⟨_, after', -, hmem⟩
      · simp at hmem
      · rcases mem_calls_rescue.mp hmem with hmem | ⟨e, after'', -, hmem⟩
        · exact Call.notMem_writing htransfer hmem
        · simp [refuse] at hmem

/-- Publishing an event makes one call. -/
theorem notMem_calls_publish {rules : Rules} {event : Event} (h : call ≠ .emit) :
    call ∉ (publish rules event).calls hall := by
  rw [publish, mem_calls_rescue]
  rintro (hmem | ⟨e, after, -, hmem⟩)
  · exact Call.notMem_writing h hmem
  · simp at hmem

/-- What is only announced and then answered makes one call. -/
theorem notMem_calls_announced {rules : Rules} {notice : Notice} {user : String} {event : Event}
    {a : α} (h : call ≠ .emit) :
    call ∉ (do note notice user; publish rules event; return a : Act α).calls hall := by
  rw [mem_calls_bind]
  rintro (hmem | ⟨_, after, -, hmem⟩)
  · simp at hmem
  · rcases mem_calls_bind.mp hmem with hmem | ⟨_, after', -, hmem⟩
    · exact notMem_calls_publish h hmem
    · simp at hmem

/-- Placing a quiz makes one call. -/
theorem notMem_calls_place {sequence : Int} {id : String} {quiz : Quiz} {key : Answers}
    (h : call ≠ .quizCreate) : call ∉ (place sequence id quiz key).calls hall := by
  rw [place, mem_calls_rescue]
  rintro (hmem | ⟨e, after, -, hmem⟩)
  · exact Call.notMem_writing h hmem
  · by_cases hkind : e.kind = .alreadyExists
    · simp [if_pos hkind, mem_calls_bind] at hmem
    · simp [if_neg hkind] at hmem

/-- Scheduling a quiz makes one call. -/
theorem notMem_calls_add {s : Schedule} {now : Int} {id : String} (h : call ≠ .bucketAppend) :
    call ∉ (s.add now id).calls hall := by
  rw [Schedule.add, mem_calls_bind]
  rintro (hmem | ⟨bucket, after, -, hmem⟩)
  · simp at hmem
  · rcases mem_calls_bind.mp hmem with hmem | ⟨_, after', -, hmem⟩
    · exact Call.notMem_writing h hmem
    · simp at hmem

/-- Firing a tick is one call: its bucket is emptied. -/
theorem calls_fire (inOrder : hall.outages.find? .bucketDrain = none) {s : Schedule} {tick : Int}
    {bucket : String} (htick : s.derive tick = .ok bucket) :
    (s.fire tick).calls hall = [.bucketDrain] := by
  have hdrain : (drainBucket bucket).calls hall = [.bucketDrain] := by
    rw [drainBucket, calls_bind_of_silent fun ids? after => calls_ofExcept ids? after]
    exact Call.calls_writing inOrder _
  rw [Schedule.fire, htick, calls_bind_of_ok (run_ofExcept _ _), calls_ofExcept, List.nil_append,
    calls_bind_of_silent, hdrain]
  intro ids after
  by_cases hids : ids ≠ []
  · rw [if_pos hids]
    rfl
  · rw [if_neg hids]
    rfl

/-- Sweeping deletes quizzes and announces that. -/
theorem notMem_calls_sweep {rules : Rules} {tick : Int} {ids : List String}
    (hdelete : call ≠ .quizDelete) (hemit : call ≠ .emit) :
    call ∉ (sweep rules tick ids).calls hall := by
  induction ids generalizing hall with
  | nil => simp [sweep]
  | cons id ids ih =>
      rw [sweep, mem_calls_bind]
      rintro (hmem | ⟨_, after, -, hmem⟩)
      · exact Call.notMem_writing hdelete hmem
      · rcases mem_calls_bind.mp hmem with hmem | ⟨_, after', -, hmem⟩
        · exact notMem_calls_publish hemit hmem
        · exact ih hmem

/-- A tick empties one bucket, whatever it does besides. -/
theorem count_drain_onTick (inOrder : hall.outages.find? .bucketDrain = none) {rules : Rules}
    {tick : Int} {bucket : String} (htick : rules.derive tick = .ok bucket) :
    ((onTick rules tick).calls hall).count .bucketDrain = 1 := by
  have hswept (ids : List String) (after : Hall) :
      ((do sweep rules tick ids; return ids : Act _).calls after).count .bucketDrain = 0 := by
    refine List.count_eq_zero_of_not_mem (mt mem_calls_bind.mp ?_)
    rintro (hmem | ⟨_, last, -, hmem⟩)
    · exact notMem_calls_sweep (by decide) (by decide) hmem
    · simp at hmem
  have hfire : (rules.schedule.fire tick).calls hall = [.bucketDrain] := calls_fire inOrder htick
  rw [onTick, calls_locked, expire]
  change (((rules.schedule.fire tick).follow _).calls hall).count .bucketDrain = 1
  rw [calls_follow, hfire, List.count_append]
  cases ((rules.schedule.fire tick).run hall).1 with
  | error e => rfl
  | ok ids => rw [hswept]; rfl

/-- Undoing a creation makes one call. -/
theorem notMem_calls_undo {id : String} {e : Fault} (h : call ≠ .quizDelete) :
    call ∉ (do deleteQuiz id; throw e : Act α).calls hall := by
  rw [mem_calls_bind]
  rintro (hmem | ⟨_, after, -, hmem⟩)
  · exact Call.notMem_writing h hmem
  · simp at hmem

end Act

end QuizHall
