import QuizHall.Hall.TickLoop
import QuizHall.Proofs.Hall.Ending

/-!
# The Rounds of the Loop

What a number of steps does is said here by the ticks that it goes through. In each round there is a
wait, and then the next tick is fired, once and with the clock standing at it. Nothing but the loop
moves the clock on while it is under way, so the ticks are known before the first round begins.
That holds in every hall, whatever is in its stores and whichever calls are out of order.

A number of steps can be cut anywhere. What follows the cut begins in the hall that the steps before
it have left behind.

What the rounds write to the log never tells of a loop that broke off. That line is written by the
loop itself, when a fault has ended it, and so it is written once.

## Main definitions

* `ticksAfter`: the ticks that follow a tick.
* `Act.round`: a wait and a tick.
* `Hall.GoesOn`: a log to which lines were added, none of which tells of a loop that broke off.

## Main results

* `Act.run_steps_eq_rounds`: steps are rounds, one for each tick that follows.
* `Act.Steady.steps`: what steps write to the log.
* `Act.run_noted`: what is left behind by the fault that ends a loop.
* `Act.run_loop_add`: a loop that goes on where steps have stopped.
-/

namespace QuizHall

/-! ### Ticks -/

/-- A number of ticks that follow a tick, in their order. -/
def ticksAfter (t : Int) (n : Nat) : List Int := (List.range n).map fun i : Nat => t + 1 + i

/-- The next tick comes first. -/
theorem ticksAfter_succ (t : Int) (n : Nat) :
    ticksAfter t (n + 1) = (t + 1) :: ticksAfter (t + 1) n := by
  rw [ticksAfter, ticksAfter, List.range_succ_eq_map, List.map_cons, List.map_map]
  refine congrArg₂ List.cons (Int.add_zero (t + 1)) (List.map_congr_left fun i _ => ?_)
  change t + 1 + ((i + 1 : Nat) : Int) = t + 1 + 1 + (i : Int)
  omega

/-- The ticks that follow are the later ones, up to the last. -/
theorem mem_ticksAfter {t tick : Int} {n : Nat} :
    tick ∈ ticksAfter t n ↔ t < tick ∧ tick ≤ t + n := by
  rw [ticksAfter, List.mem_map]
  constructor
  · rintro ⟨i, hi, rfl⟩
    have hlt := List.mem_range.mp hi
    omega
  · rintro ⟨hlt, hle⟩
    exact ⟨(tick - (t + 1)).toNat, List.mem_range.mpr (by omega), by omega⟩

namespace Act

variable {rules : Rules} {seconds : Float} {hall : Hall}

/-! ### The clock while a tick is fired -/

/-- The clock stands still while quizzes are swept. -/
theorem clock_sweep (rules : Rules) (tick : Int) (ids : List String) (hall : Hall) :
    (sweep rules tick ids).Ends hall fun _ after => after.clock = hall.clock := by
  induction ids generalizing hall with
  | nil => exact .answer rfl
  | cons id ids ih =>
      refine .bind (.deleteQuiz (fun _ _ => rfl) fun stores _ => ?_)
      exact .bind (.publish fun events log => ih { hall with stores, events, log })

/-- The clock stands still while a tick is fired. -/
theorem clock_onTick (rules : Rules) (tick : Int) (hall : Hall) :
    (onTick rules tick).Ends hall fun _ after => after.clock = hall.clock := by
  refine .locked (.bind (.fire (fun _ => rfl) (fun _ _ _ _ => rfl) fun ids _ stores log _ => ?_))
  refine .bind ((clock_sweep rules tick ids { hall with stores, log }).imp
    fun outcome after hafter => ?_)
  cases outcome with
  | ok _ => exact .answer hafter
  | error _ => exact hafter

/-! ### Steps and rounds -/

/-- One **round** of the loop: a wait, and then a tick, with the clock standing at it. -/
def round (rules : Rules) (seconds : Float) (tick : Int) : Act Unit := do
  nap seconds
  modify fun hall => { hall with clock := tick }
  let ids ← onTick rules tick
  if ids ≠ [] then note (.swept tick ids.length)

/-- Steps that are followed by steps are as many steps as both together. -/
theorem steps_add (rules : Rules) (seconds : Float) (n m : Nat) :
    steps rules seconds (n + m) = steps rules seconds n >>= fun _ => steps rules seconds m := by
  induction n with
  | zero => rw [Nat.zero_add, steps, pure_bind]
  | succ n ih => rw [Nat.succ_add, steps, steps, ih, bind_assoc, funext fun _ => bind_assoc ..]

/-- A wait and a step are the round of the next tick, whatever comes after them. -/
theorem run_nap_step (rules : Rules) (seconds : Float) (next : Act Unit) (hall : Hall) :
    (do nap seconds; let _ ← step rules; next).run hall =
      (do round rules seconds (hall.clock + 1); next).run hall := by
  rw [step, round]
  simp only [bind_assoc]
  refine congrArg (fun rest : List String → Act Unit => (onTick rules (hall.clock + 1) >>= rest).run
    { hall with naps := ⟨hall.clock, seconds⟩ :: hall.naps, clock := hall.clock + 1 })
    (funext fun ids => ?_)
  by_cases hids : ids ≠ []
  · rw [if_pos hids, if_pos hids]
    rfl
  · rw [if_neg hids, if_neg hids]
    rfl

/-- After the round of a tick the clock stands at it. -/
theorem clock_round (rules : Rules) (seconds : Float) (tick : Int) (hall : Hall) :
    (round rules seconds tick).Ends hall fun _ after => after.clock = tick := by
  have hfired (fresh : Hall) (hfresh : fresh.clock = tick) : Ends (do
      let ids ← onTick rules tick
      if ids ≠ [] then note (.swept tick ids.length)) fresh fun _ after => after.clock = tick := by
    refine .bind ((clock_onTick rules tick fresh).imp fun outcome after hafter => ?_)
    rw [hfresh] at hafter
    cases outcome with
    | error e => exact hafter
    | ok ids =>
        change Ends (if ids ≠ [] then note (.swept tick ids.length) else pure ()) after _
        by_cases hids : ids ≠ []
        · rw [if_pos hids]
          exact .note fun log => hafter
        · rw [if_neg hids]
          exact .answer hafter
  exact hfired { hall with naps := ⟨hall.clock, seconds⟩ :: hall.naps, clock := tick } rfl

/-- **Steps are rounds**, one for each tick that follows. -/
theorem run_steps_eq_rounds (rules : Rules) (seconds : Float) (n : Nat) (hall : Hall) :
    (steps rules seconds n).run hall =
      (forM (ticksAfter hall.clock n) (round rules seconds)).run hall := by
  induction n generalizing hall with
  | zero => rfl
  | succ n ih =>
      have hclock := clock_round rules seconds (hall.clock + 1) hall
      rw [Ends] at hclock
      rw [ticksAfter_succ, List.forM_cons, steps, run_nap_step, run_bind, run_bind]
      cases hround : (round rules seconds (hall.clock + 1)).run hall with
      | mk outcome after =>
          rw [hround] at hclock
          cases outcome with
          | error e => rfl
          | ok _ =>
              rw [← hclock]
              exact ih after

/-! ### What steps write to the log -/

end Act

/-- The log of a hall **goes on** in another hall if lines were added to it, none of which tells of
a loop that broke off. -/
def Hall.GoesOn (hall after : Hall) : Prop :=
  ∃ lines, after.log = hall.log ++ lines ∧ ∀ line ∈ lines, ∀ fault, line.notice ≠ .brokeOff fault

namespace Hall.GoesOn

variable {hall after last : Hall}

/-- A log that stays as it is goes on. -/
theorem of_eq (h : after.log = hall.log) : hall.GoesOn after :=
  ⟨[], h.trans (List.append_nil _).symm, fun _ hmem => (List.not_mem_nil hmem).elim⟩

/-- A log goes on with any line but one. -/
theorem of_line {line : LogRecord} (h : after.log = hall.log ++ [line])
    (hline : ∀ fault, line.notice ≠ .brokeOff fault) : hall.GoesOn after := by
  refine ⟨[line], h, fun line' hmem => ?_⟩
  rw [List.mem_singleton.mp hmem]
  exact hline

theorem trans (h : hall.GoesOn after) (h' : after.GoesOn last) : hall.GoesOn last := by
  obtain ⟨lines, hlog, hlines⟩ := h
  obtain ⟨lines', hlog', hlines'⟩ := h'
  refine ⟨lines ++ lines', by rw [hlog', hlog, List.append_assoc], fun line hmem => ?_⟩
  exact (List.mem_append.mp hmem).elim (hlines line) (hlines' line)

end Hall.GoesOn

namespace Act

/-- An operation is **steady** if the log goes on whenever it is carried out. -/
def Steady {α : Type} (act : Act α) : Prop := ∀ hall, act.Ends hall fun _ after => hall.GoesOn after

namespace Steady

variable {α β : Type}

/-- An operation that never writes to the log. -/
theorem of_log {act : Act α} (h : ∀ hall, (act.run hall).2.log = hall.log) : act.Steady :=
  fun hall => .of_eq (h hall)

theorem answer (a : α) : (pure a : Act α).Steady := of_log fun _ => rfl

theorem bind {act : Act α} {next : α → Act β} (h : act.Steady) (hnext : ∀ a, (next a).Steady) :
    (act >>= next).Steady := by
  refine fun hall => .bind ((h hall).imp fun outcome after hafter => ?_)
  cases outcome with
  | ok a => exact (hnext a after).imp fun _ _ hlast => hafter.trans hlast
  | error e => exact hafter

theorem rescue {act : Act α} {handler : Fault → Act α} (h : act.Steady)
    (hhandler : ∀ e, (handler e).Steady) : (act.rescue handler).Steady := by
  refine fun hall => .rescue ((h hall).imp fun outcome after hafter => ?_)
  cases outcome with
  | ok a => exact hafter
  | error e => exact (hhandler e after).imp fun _ _ hlast => hafter.trans hlast

theorem locked {act : Act α} (h : act.Steady) : act.locked.Steady := fun hall => .locked (h hall)

theorem ite {p : Prop} [Decidable p] {act other : Act α} (h : act.Steady) (h' : other.Steady) :
    (if p then act else other).Steady := by
  split
  · exact h
  · exact h'

/-- Any notice but that of a loop that broke off. -/
theorem note {notice : Notice} (h : ∀ fault, notice ≠ .brokeOff fault) (user : String) :
    (Act.note notice user).Steady :=
  fun _ => .of_line rfl h

/-- A call whose work never writes to the log. -/
theorem writing {call : Call} {f : Hall → Except Fault (α × Hall)}
    (h : ∀ hall a after, f hall = .ok (a, after) → hall.GoesOn after) : (call.writing f).Steady :=
  fun hall => .writing (fun _ _ => .of_eq rfl) fun a after hf => h hall a after hf

/-- Removing a quiz. -/
theorem deleteQuiz (id : String) : (Act.deleteQuiz id).Steady :=
  fun _ => .deleteQuiz (fun _ _ => .of_eq rfl) fun _ _ => .of_eq rfl

/-- Publishing an event. -/
theorem publish (rules : Rules) (event : Event) : (Act.publish rules event).Steady := by
  refine rescue (writing fun hall a after hf => ?_) fun e => note (fun fault h => by cases h) _
  obtain ⟨-, rfl⟩ := Prod.mk.inj (Except.ok.inj hf)
  cases rules.keepsEvents with
  | true => exact .of_line rfl fun fault h => by cases h
  | false => exact .of_eq rfl

/-- Sweeping quizzes away. -/
theorem sweep (rules : Rules) (tick : Int) (ids : List String) :
    (Act.sweep rules tick ids).Steady := by
  induction ids with
  | nil => exact of_log fun _ => rfl
  | cons id ids ih => exact (deleteQuiz id).bind fun _ => (publish rules _).bind fun _ => ih

/-- Firing a tick. -/
theorem onTick (rules : Rules) (tick : Int) : (Act.onTick rules tick).Steady := by
  have hderive : (ofExcept (rules.derive tick)).Steady := of_log fun hall => by rw [run_ofExcept]
  have hdrain (bucket : String) : (drainBucket bucket).Steady := fun _ =>
    .drainBucket (fun _ => .of_eq rfl) (fun _ _ _ => .of_eq rfl) fun _ _ _ => .of_eq rfl
  have hfire : (rules.schedule.fire tick).Steady := by
    refine hderive.bind fun bucket => (hdrain bucket).bind fun ids => ?_
    refine ite ((note (fun _ h => ?_) _).bind fun _ => answer ids) (answer ids)
    cases h
  exact locked (hfire.bind fun ids => (sweep rules tick ids).bind fun _ => answer ids)

/-- **A number of steps.** -/
theorem steps (rules : Rules) (seconds : Float) (n : Nat) : (Act.steps rules seconds n).Steady := by
  have hadvance : advance.Steady := of_log fun _ => rfl
  have hnap : (nap seconds).Steady := of_log fun _ => rfl
  have hstep : (step rules).Steady := by
    refine hadvance.bind fun tick => (onTick rules tick).bind fun ids => ?_
    refine ite ((note (fun _ h => ?_) _).bind fun _ => answer tick) (answer tick)
    cases h
  induction n with
  | zero => exact answer ()
  | succ n ih => exact hnap.bind fun _ => hstep.bind fun _ => ih

end Steady

/-! ### The fault that ends a loop -/

/-- The loop leaves behind what its steps leave behind, and the fault that ended them is noted. -/
theorem run_noted {α : Type} (act : Act α) (hall : Hall) :
    (noted act).run hall =
      match act.run hall with
      | (.ok a, after) => (.ok a, after)
      | (.error e, after) =>
        (.error e, { after with log := after.log ++ [⟨.brokeOff e, systemUser⟩] }) := by
  rw [noted, run_rescue]
  rfl

/-- A loop that goes on where steps have stopped is the loop over all of them. -/
theorem run_loop_add {n : Nat} {after : Hall}
    (h : (steps rules seconds n).run hall = (.ok (), after)) (m : Nat) :
    (loop rules seconds (n + m)).run hall = (loop rules seconds m).run after := by
  rw [loop, loop, run_noted, run_noted, steps_add, run_bind, h]

end Act

end QuizHall
