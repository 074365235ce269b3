import QuizHall.Hall.State

/-!
# Operations on a hall

An operation looks at the hall and changes it, step by step, until it answers or fails. A failing
operation has a hall in the end too: whatever it did before it failed has happened. Between two
steps an operation can wait, for a service to answer or for the next tick, and it can ask for the
lock of the hall, which only one operation holds at a time. Both matter only where operations are
under way together; one that is alone never waits for anything.

## Main definitions

* `Act`: operations.
* `Act.follow`: what comes after an operation, whether it answers or fails.
* `Act.rescue`, `Act.andFinally`: what is done when an operation fails, or however it ends.
* `Act.locked`: an operation under the lock.
* `Act.run`: an operation alone in the hall.

## Main results

* `Act.run_bind`, `Act.run_rescue`, `Act.run_andFinally`, `Act.run_locked`: what carrying out an
  operation comes to.
-/

namespace QuizHall

/-- What an operation can wait for. -/
inductive Wait where
  /-- For the answer to a call. -/
  | call (call : Call)
  /-- For the next tick. -/
  | tick
  deriving DecidableEq

/-- An operation on a hall, by its next step. -/
inductive Act (α : Type) where
  /-- It answers. -/
  | answer (a : α)
  /-- It fails. -/
  | fail (fault : Fault)
  /-- It looks at the hall and goes on. -/
  | look (next : Hall → Act α)
  /-- It leaves another hall behind and goes on. -/
  | leave (hall : Hall) (next : Act α)
  /-- It waits and goes on. -/
  | await (wait : Wait) (next : Act α)
  /-- It takes the lock and goes on. -/
  | acquire (next : Act α)
  /-- It gives the lock back and goes on. -/
  | release (next : Act α)

namespace Act

variable {α β : Type}

instance [Inhabited α] : Inhabited (Act α) := ⟨answer default⟩

/-! ### One operation after another -/

/-- What an operation fails with, as an operation. -/
def ofExcept : Except Fault α → Act α
  | .ok a => answer a
  | .error e => fail e

/-- Goes on with what another operation came to. -/
def follow (act : Act α) (next : Except Fault α → Act β) : Act β :=
  match act with
  | answer a => next (.ok a)
  | fail e => next (.error e)
  | look k => look fun hall => (k hall).follow next
  | leave hall k => leave hall (k.follow next)
  | await w k => await w (k.follow next)
  | acquire k => acquire (k.follow next)
  | release k => release (k.follow next)

/-- Goes on with the answer of another operation; its failure is passed on. -/
protected def bind (act : Act α) (next : α → Act β) : Act β :=
  act.follow fun outcome =>
    match outcome with
    | .ok a => next a
    | .error e => fail e

/-- Turns to another operation if one fails. What the failing one did stays done. Only faults are
handled: an operation that is called off from outside is not carried on by anybody. -/
def rescue (act : Act α) (handler : Fault → Act α) : Act α :=
  act.follow fun outcome =>
    match outcome with
    | .ok a => answer a
    | .error e => handler e

/-- Does one thing more however an operation ends. If that fails, its fault takes the place of what
the operation has come to. -/
def andFinally (act : Act α) (last : Act Unit) : Act α :=
  act.follow fun outcome => last.bind fun _ => ofExcept outcome

instance : Monad Act where
  pure := answer
  bind := Act.bind

instance : MonadExceptOf Fault Act where
  throw := fail
  tryCatch := rescue

instance : MonadStateOf Hall Act where
  get := look answer
  set hall := leave hall (answer ())
  modifyGet f := look fun hall => leave (f hall).2 (answer (f hall).1)

/-- An operation under the lock, which is given back however the operation ends. -/
def locked (act : Act α) : Act α :=
  acquire (act.follow fun outcome => release (ofExcept outcome))

/-! ### Small operations -/

/-- Waits. -/
def pause (wait : Wait) : Act Unit := await wait (answer ())

/-- Goes on only if a condition holds. -/
def ensure (p : Prop) [Decidable p] (fault : Fault) : Act Unit := if p then pure () else throw fault

/-- Goes on with what was found, if something was. -/
def found (fault : Fault) : Option α → Act α
  | some a => pure a
  | none => throw fault

/-- Writes a notice to the log, on behalf of a user. -/
def note (notice : Notice) (user : String := systemUser) : Act Unit :=
  modify fun hall => { hall with log := hall.log ++ [⟨notice, user⟩] }

/-! ### An operation alone in the hall -/

/-- Carries out an operation that is alone in the hall. -/
def run : Act α → Hall → Except Fault α × Hall
  | answer a, hall => (.ok a, hall)
  | fail e, hall => (.error e, hall)
  | look k, hall => (k hall).run hall
  | leave hall k, _ => k.run hall
  | await _ k, hall => k.run hall
  | acquire k, hall => k.run hall
  | release k, hall => k.run hall

/-- What follows an operation begins in the hall that it leaves behind. -/
theorem run_follow (act : Act α) (next : Except Fault α → Act β) (hall : Hall) :
    (act.follow next).run hall = (next (act.run hall).1).run (act.run hall).2 := by
  induction act generalizing hall with
  | answer a => rfl
  | fail e => rfl
  | look k ih => exact ih hall hall
  | leave hall' k ih => exact ih hall'
  | await w k ih => exact ih hall
  | acquire k ih => exact ih hall
  | release k ih => exact ih hall

@[simp] theorem run_pure (a : α) (hall : Hall) : run (pure a) hall = (.ok a, hall) := rfl

@[simp] theorem run_throw (e : Fault) (hall : Hall) :
    run (throw e : Act α) hall = (.error e, hall) := rfl

/-- A failure of the first part is the failure of the whole, in the state in which it happened. -/
theorem run_bind (act : Act α) (next : α → Act β) (hall : Hall) :
    run (act >>= next) hall =
      match run act hall with
      | (.ok a, hall') => run (next a) hall'
      | (.error e, hall') => (.error e, hall') := by
  change (act.follow _).run hall = _
  rw [run_follow]
  cases act.run hall with
  | mk outcome hall' => cases outcome <;> rfl

@[simp] theorem run_get (hall : Hall) : run get hall = (.ok hall, hall) := rfl

@[simp] theorem run_modify (f : Hall → Hall) (hall : Hall) :
    run (modify f) hall = (.ok (), f hall) := rfl

@[simp] theorem run_ofExcept (x : Except Fault α) (hall : Hall) :
    run (ofExcept x) hall = (x, hall) := by
  cases x <;> rfl

theorem run_ensure (p : Prop) [Decidable p] (fault : Fault) (hall : Hall) :
    run (ensure p fault) hall = (if p then .ok () else .error fault, hall) := by
  unfold ensure
  split <;> rfl

theorem run_found (fault : Fault) (a? : Option α) (hall : Hall) :
    run (found fault a?) hall = (a?.elim (.error fault) .ok, hall) := by
  cases a? <;> rfl

theorem run_rescue (act : Act α) (handler : Fault → Act α) (hall : Hall) :
    run (act.rescue handler) hall =
      match run act hall with
      | (.ok a, hall') => (.ok a, hall')
      | (.error e, hall') => run (handler e) hall' := by
  unfold rescue
  rw [run_follow]
  cases act.run hall with
  | mk outcome hall' => cases outcome <;> rfl

theorem run_andFinally (act : Act α) (last : Act Unit) (hall : Hall) :
    run (act.andFinally last) hall =
      match run last (run act hall).2 with
      | (.ok _, hall') => ((run act hall).1, hall')
      | (.error e, hall') => (.error e, hall') := by
  unfold andFinally
  rw [run_follow]
  change run (last >>= fun _ => ofExcept (run act hall).1) (run act hall).2 = _
  rw [run_bind]
  cases last.run (act.run hall).2 with
  | mk outcome hall' =>
    cases outcome with
    | ok _ => exact run_ofExcept _ _
    | error e => rfl

/-- Alone in the hall an operation does not notice the lock. -/
@[simp] theorem run_locked (act : Act α) (hall : Hall) : run act.locked hall = run act hall := by
  change (act.follow _).run hall = _
  rw [run_follow]
  exact run_ofExcept _ _

@[simp] theorem run_pause (wait : Wait) (hall : Hall) : run (pause wait) hall = (.ok (), hall) :=
  rfl

@[simp] theorem run_note (notice : Notice) (user : String) (hall : Hall) :
    run (note notice user) hall = (.ok (), { hall with log := hall.log ++ [⟨notice, user⟩] }) :=
  rfl

/-! ### Laws -/

theorem follow_follow {γ : Type} (act : Act α) (f : Except Fault α → Act β)
    (g : Except Fault β → Act γ) :
    (act.follow f).follow g = act.follow fun outcome => (f outcome).follow g := by
  induction act with
  | answer a => rfl
  | fail e => rfl
  | look k ih => exact congrArg look (funext ih)
  | leave hall k ih => exact congrArg (leave hall) ih
  | await w k ih => exact congrArg (await w) ih
  | acquire k ih => exact congrArg acquire ih
  | release k ih => exact congrArg release ih

@[simp] theorem follow_ofExcept (act : Act α) : act.follow ofExcept = act := by
  induction act with
  | answer a => rfl
  | fail e => rfl
  | look k ih => exact congrArg look (funext ih)
  | leave hall k ih => exact congrArg (leave hall) ih
  | await w k ih => exact congrArg (await w) ih
  | acquire k ih => exact congrArg acquire ih
  | release k ih => exact congrArg release ih

instance : LawfulMonad Act :=
  LawfulMonad.mk' Act
    (fun act => by
      change act.follow _ = act
      refine Eq.trans (congrArg act.follow (funext fun outcome => ?_)) (follow_ofExcept act)
      cases outcome <;> rfl)
    (fun _ _ => rfl)
    (fun act f g => by
      change (act.follow _).follow _ = act.follow _
      rw [follow_follow]
      exact congrArg act.follow (funext fun outcome => by cases outcome <;> rfl))

end Act

end QuizHall
