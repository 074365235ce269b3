import QuizHall.Hall.Act

/-!
# Operations that are under way together

Jobs that are started together take turns. A turn goes on until the operation ends, has to wait, or
asks for the lock while another one holds it. Whoever waited is put at the end of the line once the
wait is over; who asked for the lock gets it in the order of asking. A job can be a group of jobs:
its turn puts them at the end of the line, in their order.

Which waits interrupt a turn is left open. If none does, the jobs are carried out one after the
other.

## Main definitions

* `Wait.interrupts`: the waits that interrupt a turn, by how fast the stores are.
* `Job`, `Outcome`: what is started, and what it comes to.
* `Crowd`: the jobs that are under way, with the hall that they share.
* `Crowd.proceed`, `Crowd.turn`, `Crowd.turns`: a part of a turn, a turn, and a number of turns.
* `Hall.together`: some jobs started together, and the hall after the last of them.
-/

namespace QuizHall

-- Powers are those of the core library, whatever else is imported.
attribute [local instance (2000)] instPowNat

variable {α : Type}

/-- The waits that interrupt a turn: one for the next tick always does, one for the answer to a call
only if the call goes to stores that take a while. -/
def Wait.interrupts (slowStores : Bool) : Wait → Bool
  | .tick => true
  | .call c => slowStores && c.reachesStores

/-- What is started together with other jobs. -/
inductive Job (α : Type) where
  /-- An operation. -/
  | act (act : Act α)
  /-- Jobs that are started together. -/
  | group (jobs : List (Job α))

/-- What a job comes to. -/
inductive Outcome (α : Type) where
  /-- The operation came to this. -/
  | single (outcome : Except Fault α)
  /-- The jobs of a group came to these. -/
  | group (outcomes : List (Outcome α))
  /-- The turns did not suffice. -/
  | unfinished

/-- The place of a job: its number in its group, behind the place of the group. -/
abbrev Place := List Nat

/-- A job in the line, with its place. -/
structure Task (α : Type) where
  /-- Its place. -/
  place : Place
  /-- What is left of it. -/
  job : Job α

/-- Jobs that are under way. -/
structure Crowd (α : Type) where
  /-- The hall that they share. -/
  hall : Hall
  /-- Whether one of them holds the lock. -/
  isLocked : Bool := false
  /-- Those whose turn will come, in the order of the line. -/
  ready : List (Task α) := []
  /-- Those that asked for the lock, in the order of asking. -/
  waiting : List (Task α) := []
  /-- What those came to that have ended. -/
  ended : List (Place × Except Fault α) := []

/-- The tasks that a list of jobs makes, the first of which has the number `i`. -/
def Task.ofJobs (place : Place) (i : Nat) : List (Job α) → List (Task α)
  | [] => []
  | job :: jobs => ⟨place ++ [i], job⟩ :: ofJobs place (i + 1) jobs

namespace Crowd

/-- Gives the lock back: who asked for it first has it from now on and stands in line again. -/
def unlock (c : Crowd α) : Crowd α :=
  match c.waiting with
  | [] => { c with isLocked := false }
  | task :: waiting => { c with waiting, ready := c.ready ++ [task] }

/-- A turn of the operation at a place, up to its next interruption. -/
def proceed (interrupts : Wait → Bool) (place : Place) : Act α → Crowd α → Crowd α
  | .answer a, c => { c with ended := (place, .ok a) :: c.ended }
  | .fail e, c => { c with ended := (place, .error e) :: c.ended }
  | .look k, c => proceed interrupts place (k c.hall) c
  | .leave hall k, c => proceed interrupts place k { c with hall }
  | .await w k, c =>
    if interrupts w then { c with ready := c.ready ++ [⟨place, .act k⟩] }
    else proceed interrupts place k c
  | .acquire k, c =>
    if c.isLocked then { c with waiting := c.waiting ++ [⟨place, .act k⟩] }
    else proceed interrupts place k { c with isLocked := true }
  | .release k, c => proceed interrupts place k c.unlock

/-- The turn of whoever stands first in line. -/
def turn (interrupts : Wait → Bool) (c : Crowd α) : Crowd α :=
  match c.ready with
  | [] => c
  | ⟨place, .act act⟩ :: ready => proceed interrupts place act { c with ready }
  | ⟨place, .group jobs⟩ :: ready => { c with ready := ready ++ Task.ofJobs place 0 jobs }

/-- At most a number of turns. -/
def turns (interrupts : Wait → Bool) : Nat → Crowd α → Crowd α
  | 0, c => c
  | n + 1, c => if c.ready.isEmpty then c else turns interrupts n (c.turn interrupts)

/-- Where nobody stands in line, no turn changes anything. -/
theorem turns_of_idle (interrupts : Wait → Bool) (n : Nat) {c : Crowd α} (h : c.ready = []) :
    turns interrupts n c = c := by
  cases n <;> simp [turns, h]

end Crowd

mutual

/-- What a job came to, by what the operations at each place came to. -/
def Job.outcome (ended : List (Place × Except Fault α)) (place : Place) : Job α → Outcome α
  | .act _ =>
    match ended.lookup place with
    | some outcome => .single outcome
    | none => .unfinished
  | .group jobs => .group (outcomes ended place 0 jobs)

/-- What the jobs of a group came to, the first of which has the number `i`. -/
def outcomes (ended : List (Place × Except Fault α)) (place : Place) (i : Nat) :
    List (Job α) → List (Outcome α)
  | [] => []
  | job :: jobs => job.outcome ended (place ++ [i]) :: outcomes ended place (i + 1) jobs

end

/-- A number of turns that no crowd uses up in practice. -/
def ampleTurns : Nat := 2 ^ (62 : Nat)

/-- Some jobs started together: what each came to, and the hall after the last of them. -/
def Hall.together (interrupts : Wait → Bool) (hall : Hall) (jobs : List (Job α))
    (turns : Nat := ampleTurns) : List (Outcome α) × Hall :=
  let last := Crowd.turns interrupts turns { hall, ready := Task.ofJobs [] 0 jobs }
  (outcomes last.ended [] 0 jobs, last.hall)

end QuizHall
