import QuizHall.Hall.Together
import QuizHall.Proofs.Hall.Locking
import QuizHall.Proofs.Hall.Numbering

/-!
# Operations Under the Lock Do Not Mix

Operations that are started together take turns, and any wait may interrupt a turn. As long as all
of them are orderly, this makes no difference: they come to what they come to one after the other,
in the order in which they ask for the lock. The hall that one of them leaves in between is seen by
nobody else.

What a crowd has left to do is put into that order: first who holds the lock, then who waits for it,
then who has not asked for it yet. A turn changes the crowd, but not what carrying out the rest in
that order comes to. It uses up an interruption or brings somebody closer to the end. So it is known
after how many turns nobody is left, and nobody waits for the lock in vain.

This covers the requests that change quizzes, keys, buckets, ratings or balances. It does not cover
those that only read, which do not ask for the lock and may see any hall between two turns.

## Main definitions

* `Task.asking`: the operations of a line, in the order in which they have their first turn.
* `Hall.inTurn`, `Hall.breaks`: what operations come to one after the other, and how many waits
  interrupt them.
* `Crowd.LeadsTo`: what a crowd comes to if what it has left to do is done in order.
* `Hall.ampleTurnsFor`: a number of turns after which nobody is left.

## Main results

* `Crowd.LeadsTo.turn`: a turn leads to the same.
* `Crowd.LeadsTo.turns`: a crowd comes to what it leads to.
* `Hall.together_eq_inTurn`: jobs come to the same together as one after the other.
* `Hall.together_eq_serve`: so do requests.
* `Hall.Reached.together`: whatever holds where requests lead one after the other holds where they
  lead together.
* `Hall.together_counted`: quizzes that are created together get the numbers that come next.
-/

namespace QuizHall

variable {α : Type} {interrupts : Wait → Bool}

/-! ### The order of asking -/

/-- A job is **orderly** if its operations are. -/
inductive Job.Orderly : Job α → Prop
  /-- An orderly operation. -/
  | act {a : Act α} (h : a.Orderly) : Orderly (act a)
  /-- A group of orderly jobs. -/
  | group {jobs : List (Job α)} (h : ∀ job ∈ jobs, Orderly job) : Orderly (group jobs)

mutual

/-- The turns that a job takes if nothing interrupts it: an operation has to ask for the lock and to
have it, and a group has to make way for its jobs. -/
def Job.turns : Job α → Nat
  | .act _ => 2
  | .group jobs => 1 + turnsOf jobs

/-- The turns that some jobs take. -/
def turnsOf : List (Job α) → Nat
  | [] => 0
  | job :: jobs => job.turns + turnsOf jobs

end

namespace Task

/-- The turns that a line takes. -/
def turns (tasks : List (Task α)) : Nat := turnsOf (tasks.map job)

theorem turns_append (front back : List (Task α)) :
    turns (front ++ back) = turns front + turns back := by
  induction front with
  | nil => exact (Nat.zero_add _).symm
  | cons task front ih =>
      exact (congrArg (task.job.turns + ·) ih).trans (Nat.add_assoc _ _ _).symm

theorem turns_ofJobs (place : Place) (i : Nat) (jobs : List (Job α)) :
    turns (ofJobs place i jobs) = turnsOf jobs := by
  induction jobs generalizing i with
  | nil => rfl
  | cons job jobs ih => exact congrArg (job.turns + ·) (ih (i + 1))

/-- An operation takes two turns, and the rest of the line takes the others. -/
theorem turns_cons_act (place : Place) (act : Act α) (rest : List (Task α)) :
    turns (⟨place, .act act⟩ :: rest) = turns rest + 2 :=
  Nat.add_comm _ _

/-- A group takes one turn, and its jobs take the others. -/
theorem turns_cons_group (place : Place) (jobs : List (Job α)) (rest : List (Task α)) :
    turns (⟨place, .group jobs⟩ :: rest) = turns (rest ++ ofJobs place 0 jobs) + 1 := by
  rw [turns_append, turns_ofJobs]
  change 1 + turnsOf jobs + turns rest = turns rest + turnsOf jobs + 1
  omega

/-- The operations of a line, with their places, in the order in which they have their first turn. A
group makes way for its jobs, which have theirs later. -/
def asking : List (Task α) → List (Place × Act α)
  | [] => []
  | ⟨place, .act act⟩ :: rest => (place, act) :: asking rest
  | ⟨place, .group jobs⟩ :: rest => asking (rest ++ ofJobs place 0 jobs)
termination_by tasks => turns tasks
decreasing_by
  · rw [turns_cons_act]
    omega
  · rw [turns_cons_group]
    omega

/-- An operation at a place, as a task. -/
def ofAct (entry : Place × Act α) : Task α := ⟨entry.1, .act entry.2⟩

theorem orderly_ofJobs {jobs : List (Job α)} (h : ∀ job ∈ jobs, job.Orderly) (place : Place)
    (i : Nat) : ∀ task ∈ ofJobs place i jobs, task.job.Orderly := by
  induction jobs generalizing i with
  | nil => simp [ofJobs]
  | cons job jobs ih =>
      obtain ⟨hjob, hjobs⟩ := List.forall_mem_cons.mp h
      exact List.forall_mem_cons.mpr ⟨hjob, ih hjobs (i + 1)⟩

end Task

/-! ### One after the other -/

/-- How many waits interrupt an operation that is carried out from a hall. -/
def Act.breaks (interrupts : Wait → Bool) : Act α → Hall → Nat
  | answer _, _ => 0
  | fail _, _ => 0
  | look k, hall => (k hall).breaks interrupts hall
  | leave hall k, _ => k.breaks interrupts hall
  | await w k, hall => (if interrupts w then 1 else 0) + k.breaks interrupts hall
  | acquire k, hall => k.breaks interrupts hall
  | release k, hall => k.breaks interrupts hall

theorem Act.breaks_ofExcept (outcome : Except Fault α) (hall : Hall) :
    (ofExcept outcome).breaks interrupts hall = 0 := by
  cases outcome <;> rfl

namespace Hall

/-- What some operations come to one after the other, and the hall after the last of them. -/
def inTurn (hall : Hall) : List (Place × Act α) → List (Place × Except Fault α) × Hall
  | [] => ([], hall)
  | (place, act) :: queue =>
    let (outcome, hall') := act.run hall
    let (results, last) := hall'.inTurn queue
    ((place, outcome) :: results, last)

/-- How many waits interrupt some operations that are carried out one after the other. -/
def breaks (interrupts : Wait → Bool) (hall : Hall) : List (Place × Act α) → Nat
  | [] => 0
  | (_, act) :: queue => act.breaks interrupts hall + (act.run hall).2.breaks interrupts queue

variable (hall : Hall) (place : Place) (front back : List (Place × Act α))

/-- Who has been given the lock comes to what it would have come to asking for it. -/
theorem inTurn_acquire (interrupts : Wait → Bool) (k : Act α) :
    hall.inTurn (front ++ (place, .acquire k) :: back) = hall.inTurn (front ++ (place, k) :: back) ∧
      hall.breaks interrupts (front ++ (place, .acquire k) :: back) =
        hall.breaks interrupts (front ++ (place, k) :: back) := by
  induction front generalizing hall with
  | nil => exact ⟨rfl, rfl⟩
  | cons entry front ih =>
      obtain ⟨hturn, hbreaks⟩ := ih (entry.2.run hall).2
      constructor
      · simp only [List.cons_append, inTurn, hturn]
      · simp only [List.cons_append, breaks, hbreaks]

/-- Who comes to something at once may as well do so out of turn. -/
theorem inTurn_ofExcept (interrupts : Wait → Bool) (outcome : Except Fault α) :
    ((place, outcome) :: (hall.inTurn (front ++ back)).1).Perm
        (hall.inTurn (front ++ (place, .ofExcept outcome) :: back)).1 ∧
      (hall.inTurn (front ++ (place, .ofExcept outcome) :: back)).2 =
        (hall.inTurn (front ++ back)).2 ∧
      hall.breaks interrupts (front ++ (place, .ofExcept outcome) :: back) =
        hall.breaks interrupts (front ++ back) := by
  induction front generalizing hall with
  | nil =>
      simp only [List.nil_append, inTurn, breaks, Act.run_ofExcept, Act.breaks_ofExcept,
        Nat.zero_add]
      exact ⟨.refl _, trivial, trivial⟩
  | cons entry front ih =>
      obtain ⟨hperm, hlast, hbreaks⟩ := ih (entry.2.run hall).2
      refine ⟨(List.Perm.swap _ _ _).trans (hperm.cons _), hlast, ?_⟩
      simp only [List.cons_append, breaks, hbreaks]

/-- After what has ended already, operations that are carried out one after the other **come to**
some results, whatever their order, and leave a hall. They are interrupted a number of times at
most. -/
structure ComesTo (interrupts : Wait → Bool) (hall : Hall) (ended : List (Place × Except Fault α))
    (queue : List (Place × Act α)) (results : List (Place × Except Fault α)) (last : Hall)
    (n : Nat) : Prop where
  /-- The results, with those that were there already. -/
  results : (ended ++ (hall.inTurn queue).1).Perm results
  /-- The hall after the last operation. -/
  last : (hall.inTurn queue).2 = last
  /-- The interruptions. -/
  breaks : hall.breaks interrupts queue ≤ n

namespace ComesTo

variable {hall last : Hall} {place : Place} {ended results : List (Place × Except Fault α)}
  {front back queue : List (Place × Act α)} {n : Nat}

/-- Asking for the lock is over. -/
theorem acquire {k : Act α}
    (h : hall.ComesTo interrupts ended (front ++ (place, .acquire k) :: back) results last n) :
    hall.ComesTo interrupts ended (front ++ (place, k) :: back) results last n := by
  obtain ⟨hturn, hbreaks⟩ := hall.inTurn_acquire place front back interrupts k
  obtain ⟨hresults, hlast, hn⟩ := h
  rw [hturn] at hresults hlast
  rw [hbreaks] at hn
  exact ⟨hresults, hlast, hn⟩

/-- An operation that comes to something at once is over. -/
theorem ofExcept {outcome : Except Fault α}
    (h : hall.ComesTo interrupts ended (front ++ (place, .ofExcept outcome) :: back) results last
      n) :
    hall.ComesTo interrupts ((place, outcome) :: ended) (front ++ back) results last n := by
  obtain ⟨hperm, hlast, hbreaks⟩ := hall.inTurn_ofExcept place front back interrupts outcome
  have hresults := List.perm_middle.symm.trans ((hperm.append_left ended).trans h.results)
  exact ⟨hresults, hlast.symm.trans h.last, hbreaks.symm.trans_le h.breaks⟩

/-- An operation that gives the lock back is over. -/
theorem release {outcome : Except Fault α}
    (h : hall.ComesTo interrupts ended ((place, .release (.ofExcept outcome)) :: queue) results last
      n) :
    hall.ComesTo interrupts ((place, outcome) :: ended) queue results last n := by
  have hkeeps : hall.ComesTo interrupts ended ([] ++ (place, .ofExcept outcome) :: queue) results
      last n := ⟨h.results, h.last, h.breaks⟩
  exact hkeeps.ofExcept

/-- A wait is over. -/
theorem await {wait : Wait} {k : Act α}
    (h : hall.ComesTo interrupts ended ((place, .await wait k) :: queue) results last n) :
    hall.ComesTo interrupts ended ((place, k) :: queue) results last n := by
  have hle : hall.breaks interrupts ((place, k) :: queue) ≤
      hall.breaks interrupts ((place, .await wait k) :: queue) :=
    Nat.add_le_add_right (Nat.le_add_left _ _) _
  exact ⟨h.results, h.last, hle.trans h.breaks⟩

/-- An interruption is over. -/
theorem interrupted {wait : Wait} {k : Act α} (hinterrupts : interrupts wait = true)
    (h : hall.ComesTo interrupts ended ((place, .await wait k) :: queue) results last n) :
    ∃ m < n, hall.ComesTo interrupts ended ((place, k) :: queue) results last m := by
  have heq : hall.breaks interrupts ((place, .await wait k) :: queue) =
      1 + hall.breaks interrupts ((place, k) :: queue) := by
    rw [Hall.breaks, Act.breaks, if_pos hinterrupts, Nat.add_assoc]
    rfl
  have hn := h.breaks
  exact ⟨_, by omega, h.results, h.last, Nat.le_refl _⟩

end ComesTo

end Hall

/-! ### What a crowd has left to do -/

namespace Crowd

variable {results : List (Place × Except Fault α)} {last : Hall} {n : Nat}

/-- Who comes to something at once has ended. -/
theorem proceed_ofExcept (place : Place) (outcome : Except Fault α) (c : Crowd α) :
    proceed interrupts place (.ofExcept outcome) c =
      { c with ended := (place, outcome) :: c.ended } := by
  cases outcome <;> rfl

/-- One turn comes first, if only by doing nothing. -/
theorem turns_succ (interrupts : Wait → Bool) (n : Nat) (c : Crowd α) :
    c.turns interrupts (n + 1) = (c.turn interrupts).turns interrupts n := by
  cases hready : c.ready with
  | nil =>
      have hturn : c.turn interrupts = c := by rw [Crowd.turn, hready]
      rw [hturn, turns_of_idle _ _ hready, turns_of_idle _ _ hready]
  | cons task rest => simp [Crowd.turns, hready]

/-- A crowd **leads to** some results and a hall, within a number of turns, if what it has left to
do comes to them one after the other: first who holds the lock, then who waits for it, then the
others, in the order in which they ask for it. -/
inductive LeadsTo (interrupts : Wait → Bool) (results : List (Place × Except Fault α))
    (last : Hall) : Crowd α → Nat → Prop
  /-- The lock is free, and nobody waits for it. -/
  | free {hall : Hall} {ended : List (Place × Except Fault α)} {others : List (Task α)} {b n : Nat}
      (hothers : ∀ task ∈ others, task.job.Orderly)
      (h : hall.ComesTo interrupts ended (Task.asking others) results last b)
      (hn : b + Task.turns others ≤ n) :
      LeadsTo interrupts results last { hall, ready := others, ended } n
  /-- Somebody in the line holds the lock. -/
  | held {hall : Hall} {ended : List (Place × Except Fault α)} (before after : List (Task α))
      {holder : Place × Act α} {waiting : List (Place × Act α)} {b n : Nat}
      (hothers : ∀ task ∈ before ++ after, task.job.Orderly)
      (hholds : ∀ entry ∈ holder :: waiting, entry.2.Holding)
      (h : hall.ComesTo interrupts ended (holder :: waiting ++ Task.asking (before ++ after))
        results last b)
      (hn : b + (waiting.length + Task.turns (before ++ after)) < n) :
      LeadsTo interrupts results last
        { hall, isLocked := true, ready := before ++ .ofAct holder :: after,
          waiting := waiting.map .ofAct, ended } n

namespace LeadsTo

/-- Whoever was interrupted, or has been given the lock, stands last in line. -/
theorem heldLast {hall : Hall} {ended : List (Place × Except Fault α)} {others : List (Task α)}
    {holder : Place × Act α} {waiting : List (Place × Act α)} {b : Nat}
    (hothers : ∀ task ∈ others, task.job.Orderly)
    (hholds : ∀ entry ∈ holder :: waiting, entry.2.Holding)
    (h : hall.ComesTo interrupts ended (holder :: waiting ++ Task.asking others) results last b)
    (hn : b + (waiting.length + Task.turns others) < n) :
    LeadsTo interrupts results last
      { hall, isLocked := true, ready := others ++ [.ofAct holder], waiting := waiting.map .ofAct,
        ended } n := by
  rw [← List.append_nil others] at hothers h hn
  exact .held others [] hothers hholds h hn

/-- **The part of a turn that is done under the lock leads to the same.** By induction on what is
left to do under the lock. -/
theorem proceed {k : Act α} (hk : k.Holding) {place : Place} {hall : Hall}
    {ended : List (Place × Except Fault α)} {others : List (Task α)}
    {waiting : List (Place × Act α)} {b : Nat} (hothers : ∀ task ∈ others, task.job.Orderly)
    (hholds : ∀ entry ∈ waiting, entry.2.Holding)
    (h : hall.ComesTo interrupts ended ((place, k) :: waiting ++ Task.asking others) results last b)
    (hn : b + (waiting.length + Task.turns others) ≤ n) :
    LeadsTo interrupts results last
      (Crowd.proceed interrupts place k
        { hall, isLocked := true, ready := others, waiting := waiting.map .ofAct, ended }) n := by
  induction hk generalizing hall b with
  | release outcome =>
      rw [Crowd.proceed, proceed_ofExcept]
      -- The lock goes to whoever asked for it first, who is put behind those that have not asked.
      cases waiting with
      | nil =>
          rw [List.length_nil, Nat.zero_add] at hn
          exact .free hothers h.release hn
      | cons holder waiting =>
          have hn : b + (waiting.length + Task.turns others) < n := by
            rw [List.length_cons] at hn
            omega
          exact .heldLast hothers hholds h.release hn
  | look _ ih => exact ih hall ⟨h.results, h.last, h.breaks⟩ hn
  | leave hall' _ ih => exact ih ⟨h.results, h.last, h.breaks⟩ hn
  | @await wait k hk ih =>
      rw [Crowd.proceed]
      split
      case isTrue hinterrupts =>
        obtain ⟨m, hm, h⟩ := h.interrupted hinterrupts
        have hholder : ∀ entry ∈ (place, k) :: waiting, entry.2.Holding :=
          List.forall_mem_cons.mpr ⟨hk, hholds⟩
        have hn : m + (waiting.length + Task.turns others) < n := by omega
        exact .heldLast hothers hholder h hn
      case isFalse hinterrupts => exact ih h.await hn

/-- Who has its turn while the lock is free either comes to something at once, or takes the lock, or
makes way. -/
theorem turn_free {task : Task α} {rest : List (Task α)} {hall : Hall}
    {ended : List (Place × Except Fault α)} {b : Nat} (htask : task.job.Orderly)
    (hrest : ∀ task ∈ rest, task.job.Orderly)
    (h : hall.ComesTo interrupts ended (Task.asking (task :: rest)) results last b)
    (hn : b + Task.turns (task :: rest) ≤ n + 1) :
    LeadsTo interrupts results last
      (Crowd.turn interrupts { hall, ready := task :: rest, ended }) n := by
  obtain ⟨place, job⟩ := task
  cases htask with
  | act hact =>
      rw [Task.asking, ← List.nil_append ((_, _) :: _)] at h
      rw [Task.turns_cons_act] at hn
      have hn : b + Task.turns rest ≤ n := by omega
      cases hact with
      | ofExcept outcome =>
          change LeadsTo _ _ _ (Crowd.proceed interrupts place _ _) n
          rw [proceed_ofExcept]
          exact .free hrest h.ofExcept hn
      | acquire hk =>
          rw [← Nat.zero_add (Task.turns rest)] at hn
          exact proceed hk hrest (List.forall_mem_nil _) h.acquire hn
  | @group jobs hjobs =>
      rw [Task.asking] at h
      rw [Task.turns_cons_group] at hn
      have hothers : ∀ task ∈ rest ++ Task.ofJobs place 0 jobs, task.job.Orderly :=
        List.forall_mem_append.mpr ⟨hrest, Task.orderly_ofJobs hjobs place 0⟩
      exact .free hothers h (Nat.le_of_succ_le_succ hn)

/-- Who has its turn while another one holds the lock either comes to something at once, or is the
last to wait for the lock from now on, or makes way. -/
theorem turn_held {task : Task α} (before after : List (Task α)) {holder : Place × Act α}
    {waiting : List (Place × Act α)} {hall : Hall} {ended : List (Place × Except Fault α)} {b : Nat}
    (htask : task.job.Orderly) (hrest : ∀ task ∈ before ++ after, task.job.Orderly)
    (hholds : ∀ entry ∈ holder :: waiting, entry.2.Holding)
    (h : hall.ComesTo interrupts ended
      (holder :: waiting ++ Task.asking (task :: (before ++ after))) results last b)
    (hn : b + (waiting.length + Task.turns (task :: (before ++ after))) < n + 1) :
    LeadsTo interrupts results last
      (Crowd.turn interrupts
        { hall, isLocked := true, ready := task :: before ++ .ofAct holder :: after,
          waiting := waiting.map .ofAct, ended }) n := by
  obtain ⟨place, job⟩ := task
  cases htask with
  | act hact =>
      rw [Task.asking] at h
      rw [Task.turns_cons_act] at hn
      cases hact with
      | ofExcept outcome =>
          change LeadsTo _ _ _ (Crowd.proceed interrupts place _ _) n
          rw [proceed_ofExcept]
          have hn : b + (waiting.length + Task.turns (before ++ after)) < n := by omega
          exact .held before after hrest hholds h.ofExcept hn
      | @acquire k hk =>
          -- It was the first of the others and becomes the last to wait, so the order is the same.
          have h := h.acquire
          rw [List.append_cons, List.cons_append] at h
          have hn : b + ((waiting ++ [(place, k)]).length + Task.turns (before ++ after)) < n := by
            rw [List.length_append, List.length_singleton]
            omega
          have hholds : ∀ entry ∈ holder :: (waiting ++ [(place, k)]), entry.2.Holding :=
            List.forall_mem_append.mpr ⟨hholds, List.forall_mem_singleton.mpr hk⟩
          have hheld := LeadsTo.held before after hrest hholds h hn
          rw [List.map_append] at hheld
          exact hheld
  | @group jobs hjobs =>
      -- Its jobs go to the end of the line, past the holder, who is not among the others.
      rw [Task.asking, List.append_assoc] at h
      rw [Task.turns_cons_group, List.append_assoc] at hn
      have hothers : ∀ task ∈ before ++ (after ++ Task.ofJobs place 0 jobs),
          task.job.Orderly := by
        rw [← List.append_assoc]
        exact List.forall_mem_append.mpr ⟨hrest, Task.orderly_ofJobs hjobs place 0⟩
      have hheld := LeadsTo.held before _ hothers hholds h (Nat.lt_of_succ_lt_succ hn)
      rw [← List.cons_append, ← List.append_assoc] at hheld
      exact hheld

/-- **A turn leads to the same**, and leaves one turn less to take. -/
theorem turn {c : Crowd α} (h : LeadsTo interrupts results last c (n + 1)) :
    LeadsTo interrupts results last (c.turn interrupts) n := by
  cases h with
  | @free hall ended others b _ hothers h hn =>
      cases others with
      | nil =>
          have hnone : hall.ComesTo interrupts ended (Task.asking []) results last 0 := by
            rw [Task.asking] at h ⊢
            exact ⟨h.results, h.last, Nat.le_refl 0⟩
          exact .free hothers hnone (Nat.zero_le n)
      | cons task rest =>
          obtain ⟨htask, hrest⟩ := List.forall_mem_cons.mp hothers
          exact turn_free htask hrest h hn
  | held before after hothers hholds h hn =>
      cases before with
      | nil =>
          obtain ⟨hholder, hwaiting⟩ := List.forall_mem_cons.mp hholds
          exact proceed hholder hothers hwaiting h (Nat.le_of_lt_succ hn)
      | cons task before =>
          obtain ⟨htask, hrest⟩ := List.forall_mem_cons.mp hothers
          exact turn_held before after htask hrest hholds h hn

/-- A crowd that leads to something without a turn has come to it. -/
theorem done {c : Crowd α} (h : LeadsTo interrupts results last c 0) :
    c.ready = [] ∧ c.ended.Perm results ∧ c.hall = last := by
  cases h with
  | @free hall ended others b _ hothers h hn =>
      cases others with
      | nil =>
          rw [Task.asking] at h
          have hresults := h.results
          rw [Hall.inTurn, List.append_nil] at hresults
          exact ⟨rfl, hresults, h.last⟩
      | cons task rest =>
          obtain ⟨place, job⟩ := task
          cases job with
          | act act => rw [Task.turns_cons_act] at hn; omega
          | group jobs => rw [Task.turns_cons_group] at hn; omega
  | held _ _ _ _ _ hn => omega

/-- **A crowd comes to what it leads to**, by as many turns as that takes, or more. -/
theorem turns {c : Crowd α} (h : LeadsTo interrupts results last c n) {m : Nat} (hm : n ≤ m) :
    (c.turns interrupts m).ended.Perm results ∧ (c.turns interrupts m).hall = last := by
  induction n generalizing c m with
  | zero =>
      obtain ⟨hready, hresults, hlast⟩ := h.done
      rw [turns_of_idle interrupts m hready]
      exact ⟨hresults, hlast⟩
  | succ n ih =>
      obtain ⟨m, rfl⟩ := Nat.exists_eq_add_of_le' hm
      rw [← Nat.add_assoc, turns_succ]
      exact ih h.turn (Nat.le_add_left n m)

end LeadsTo

end Crowd

/-! ### Places -/

namespace Place

/-- Two places stand **apart** if neither is within the other. -/
def Apart (place other : Place) : Prop := ¬ place <+: other ∧ ¬ other <+: place

/-- Whoever stands apart from a group stands apart from its jobs. -/
theorem Apart.concat {place other : Place} (h : place.Apart other) (i : Nat) :
    place.Apart (other ++ [i]) := by
  obtain ⟨hplace, hother⟩ := h
  refine ⟨fun hwithin => ?_, fun hwithin => hother ((List.prefix_append _ _).trans hwithin)⟩
  rcases List.prefix_concat_iff.mp hwithin with rfl | hwithin
  · exact hother (List.prefix_append _ _)
  · exact hplace hwithin

/-- The jobs of a group stand apart. -/
theorem apart_of_ne (place : Place) {i j : Nat} (h : i ≠ j) :
    Apart (place ++ [i]) (place ++ [j]) := by
  simp [Apart, List.prefix_append_right_inj, h, h.symm]

end Place

namespace Task

/-- A line **stands apart** if the places of its tasks do. -/
def Apart (tasks : List (Task α)) : Prop :=
  tasks.Pairwise fun task other => task.place.Apart other.place

theorem exists_of_mem_ofJobs {place : Place} {i : Nat} {jobs : List (Job α)} {task : Task α}
    (h : task ∈ ofJobs place i jobs) : ∃ j, i ≤ j ∧ task.place = place ++ [j] := by
  induction jobs generalizing i with
  | nil => cases h
  | cons job jobs ih =>
      cases h with
      | head => exact ⟨i, Nat.le_refl i, rfl⟩
      | tail _ h =>
          obtain ⟨j, hle, hplace⟩ := ih h
          exact ⟨j, by omega, hplace⟩

theorem apart_ofJobs (place : Place) (i : Nat) (jobs : List (Job α)) :
    Apart (ofJobs place i jobs) := by
  induction jobs generalizing i with
  | nil => exact .nil
  | cons job jobs ih =>
      refine .cons (fun task htask => ?_) (ih (i + 1))
      obtain ⟨j, hle, hplace⟩ := exists_of_mem_ofJobs htask
      rw [hplace]
      exact Place.apart_of_ne place (by omega)

/-- A group that makes way for its jobs leaves the line apart. -/
theorem Apart.makeWay {place : Place} {jobs : List (Job α)} {rest : List (Task α)}
    (h : Apart (⟨place, .group jobs⟩ :: rest)) : Apart (rest ++ ofJobs place 0 jobs) := by
  obtain ⟨hgroup, hrest⟩ := List.pairwise_cons.mp h
  refine List.pairwise_append.mpr ⟨hrest, apart_ofJobs place 0 jobs, fun task htask job hjob => ?_⟩
  obtain ⟨j, -, hplace⟩ := exists_of_mem_ofJobs hjob
  rw [hplace]
  exact Place.Apart.concat (hgroup task htask).symm j

/-- Every operation of a line is within the place of a task. -/
theorem exists_of_mem_asking {tasks : List (Task α)} {entry : Place × Act α}
    (h : entry ∈ asking tasks) : ∃ task ∈ tasks, task.place <+: entry.1 := by
  induction tasks using asking.induct with
  | case1 => simp [asking] at h
  | case2 place act rest ih =>
      rw [asking] at h
      cases h with
      | head => exact ⟨_, List.mem_cons_self, List.prefix_refl place⟩
      | tail _ h =>
          obtain ⟨task, htask, hwithin⟩ := ih h
          exact ⟨task, List.mem_cons_of_mem _ htask, hwithin⟩
  | case3 place jobs rest ih =>
      rw [asking] at h
      obtain ⟨task, htask, hwithin⟩ := ih h
      rcases List.mem_append.mp htask with htask | htask
      · exact ⟨task, List.mem_cons_of_mem _ htask, hwithin⟩
      · obtain ⟨j, -, hplace⟩ := exists_of_mem_ofJobs htask
        rw [hplace] at hwithin
        exact ⟨_, List.mem_cons_self, (List.prefix_append _ _).trans hwithin⟩

/-- In a line that stands apart no two operations are at one place. -/
theorem Apart.nodup {tasks : List (Task α)} (h : Apart tasks) :
    ((asking tasks).map Prod.fst).Nodup := by
  induction tasks using asking.induct with
  | case1 => simp [asking]
  | case2 place act rest ih =>
      obtain ⟨hplace, hrest⟩ := List.pairwise_cons.mp h
      rw [asking, List.map_cons, List.nodup_cons]
      refine ⟨fun hmem => ?_, ih hrest⟩
      obtain ⟨entry, hentry, heq⟩ := List.mem_map.mp hmem
      obtain ⟨task, htask, hwithin⟩ := exists_of_mem_asking hentry
      rw [heq] at hwithin
      exact (hplace task htask).2 hwithin
  | case3 place jobs rest ih =>
      rw [asking]
      exact ih h.makeWay

end Task

/-- What is found in a list does not depend on its order, if no two entries have one key. -/
theorem lookup_eq_of_perm {β : Type} {ended ended' : List (Place × β)} (h : ended.Perm ended')
    (hnodup : (ended.map Prod.fst).Nodup) (place : Place) :
    ended.lookup place = ended'.lookup place := by
  induction h with
  | nil => rfl
  | cons entry h ih =>
      rw [List.map_cons, List.nodup_cons] at hnodup
      rw [List.lookup_cons, List.lookup_cons, ih hnodup.2]
  | swap entry other rest =>
      have hne : entry.1 ≠ other.1 := by
        rintro heq
        simp [heq] at hnodup
      rw [List.lookup_cons, List.lookup_cons, List.lookup_cons, List.lookup_cons]
      by_cases hentry : place = entry.1
      · simp [hentry, beq_false_of_ne hne]
      · simp [beq_false_of_ne hentry]
  | trans h₁ h₂ ih₁ ih₂ =>
      exact (ih₁ hnodup).trans (ih₂ ((h₁.map Prod.fst).nodup_iff.mp hnodup))

/-- Every entry of a list is found, if no two of them have one key. -/
theorem lookup_eq_some_of_mem {β : Type} {ended : List (Place × β)}
    (hnodup : (ended.map Prod.fst).Nodup) {entry : Place × β} (h : entry ∈ ended) :
    ended.lookup entry.1 = some entry.2 := by
  obtain ⟨front, back, rfl⟩ := List.append_of_mem h
  rw [lookup_eq_of_perm List.perm_middle hnodup, List.lookup_cons_self]

/-! ### Jobs that are started together -/

mutual

/-- What a job came to depends on nothing but what is found at its places. -/
theorem Job.outcome_congr {ended ended' : List (Place × Except Fault α)}
    (h : ∀ place, ended.lookup place = ended'.lookup place) (place : Place) (job : Job α) :
    job.outcome ended place = job.outcome ended' place := by
  cases job with
  | act act => simp only [Job.outcome, h]
  | group jobs => rw [Job.outcome, Job.outcome, outcomes_congr h]

theorem outcomes_congr {ended ended' : List (Place × Except Fault α)}
    (h : ∀ place, ended.lookup place = ended'.lookup place) (place : Place) (i : Nat)
    (jobs : List (Job α)) : outcomes ended place i jobs = outcomes ended' place i jobs := by
  cases jobs with
  | nil => rfl
  | cons job jobs => rw [outcomes, outcomes, Job.outcome_congr h, outcomes_congr h]

end

/-- The job of answering a request. -/
def Request.job (rules : Rules) (request : Request) : Job Answer := .act (request.act rules)

namespace Hall

theorem map_fst_inTurn (hall : Hall) (queue : List (Place × Act α)) :
    (hall.inTurn queue).1.map Prod.fst = queue.map Prod.fst := by
  induction queue generalizing hall with
  | nil => rfl
  | cons entry queue ih => exact congrArg (entry.1 :: ·) (ih (entry.2.run hall).2)

/-- The turns that suffice for some jobs that are started together. -/
def ampleTurnsFor (interrupts : Wait → Bool) (hall : Hall) (jobs : List (Job α)) : Nat :=
  hall.breaks interrupts (Task.asking (Task.ofJobs [] 0 jobs)) + turnsOf jobs

/-- **Orderly jobs come to the same together as in turn**, whatever interrupts them. -/
theorem together_eq_inTurn (interrupts : Wait → Bool) (hall : Hall) {jobs : List (Job α)}
    (h : ∀ job ∈ jobs, job.Orderly) {turns : Nat}
    (hturns : hall.ampleTurnsFor interrupts jobs ≤ turns) :
    hall.together interrupts jobs turns =
      (outcomes (hall.inTurn (Task.asking (Task.ofJobs [] 0 jobs))).1 [] 0 jobs,
        (hall.inTurn (Task.asking (Task.ofJobs [] 0 jobs))).2) := by
  have hleads : Crowd.LeadsTo interrupts (hall.inTurn (Task.asking (Task.ofJobs [] 0 jobs))).1
      (hall.inTurn (Task.asking (Task.ofJobs [] 0 jobs))).2
      { hall, ready := Task.ofJobs [] 0 jobs } turns := by
    refine .free (Task.orderly_ofJobs h [] 0) ⟨.refl _, rfl, Nat.le_refl _⟩ ?_
    rwa [Task.turns_ofJobs]
  obtain ⟨hperm, hlast⟩ := hleads.turns (Nat.le_refl turns)
  have hnodup := (Task.apart_ofJobs [] 0 jobs).nodup
  rw [← hall.map_fst_inTurn] at hnodup
  have hlookup := lookup_eq_of_perm hperm.symm hnodup
  exact Prod.ext (outcomes_congr (fun place => (hlookup place).symm) [] 0 jobs) hlast

/-! ### Requests that are under way together -/

/-- Carrying out the jobs of some requests in turn is serving the requests. -/
theorem inTurn_serve (rules : Rules) (hall : Hall) (requests : List Request) (place : Place)
    (i : Nat) :
    let queue := Task.asking (Task.ofJobs place i (requests.map (Request.job rules)))
    (hall.inTurn queue).2 = (hall.serve rules requests).2 ∧
      ∀ ended, (∀ entry ∈ (hall.inTurn queue).1, ended.lookup entry.1 = some entry.2) →
        outcomes ended place i (requests.map (Request.job rules)) =
          (hall.serve rules requests).1.map .single := by
  induction requests generalizing hall i with
  | nil =>
      intro queue
      have hqueue : queue = [] := by
        simp only [queue, List.map_nil, Task.ofJobs, Task.asking]
      rw [hqueue]
      exact ⟨rfl, fun ended _ => rfl⟩
  | cons request rest ih =>
      obtain ⟨hlast, houtcomes⟩ := ih ((request.act rules).run hall).2 (i + 1)
      intro queue
      have hqueue : queue = (place ++ [i], request.act rules) ::
          Task.asking (Task.ofJobs place (i + 1) (rest.map (Request.job rules))) := by
        simp only [queue, List.map_cons, Task.ofJobs, Request.job, Task.asking]
      rw [hqueue]
      refine ⟨hlast, fun ended hended => ?_⟩
      obtain ⟨hfirst, hrest⟩ := List.forall_mem_cons.mp hended
      rw [List.map_cons, outcomes, houtcomes ended hrest, Request.job, Job.outcome, hfirst]
      rfl

/-- **Requests that take the lock come to the same together as one after the other**, in the order
in which they are started, whatever interrupts them. -/
theorem together_eq_serve (rules : Rules) (interrupts : Wait → Bool) (hall : Hall)
    {requests : List Request} (h : ∀ request ∈ requests, request.TakesLock) {turns : Nat}
    (hturns : hall.ampleTurnsFor interrupts (requests.map (Request.job rules)) ≤ turns) :
    hall.together interrupts (requests.map (Request.job rules)) turns =
      ((hall.serve rules requests).1.map .single, (hall.serve rules requests).2) := by
  have horderly : ∀ job ∈ requests.map (Request.job rules), job.Orderly := by
    intro job hjob
    obtain ⟨request, hrequest, rfl⟩ := List.mem_map.mp hjob
    exact .act (Request.orderly rules (h request hrequest))
  obtain ⟨hlast, houtcomes⟩ := inTurn_serve rules hall requests [] 0
  have hnodup := (Task.apart_ofJobs [] 0 (requests.map (Request.job rules))).nodup
  rw [← hall.map_fst_inTurn] at hnodup
  rw [together_eq_inTurn interrupts hall horderly hturns, hlast]
  rw [houtcomes _ fun entry hentry => lookup_eq_some_of_mem hnodup hentry]

/-- **Requests lead nowhere together where they would not lead one after the other.** -/
theorem Reached.together {rules : Rules} {start hall : Hall} (hreached : Reached rules start hall)
    (interrupts : Wait → Bool) {requests : List Request}
    (h : ∀ request ∈ requests, request.TakesLock) {turns : Nat}
    (hturns : hall.ampleTurnsFor interrupts (requests.map (Request.job rules)) ≤ turns) :
    Reached rules start (hall.together interrupts (requests.map (Request.job rules)) turns).2 := by
  rw [together_eq_serve rules interrupts hall h hturns]
  exact hreached.serve requests

/-- **Quizzes that are created together get the numbers that come next**, in the order in which they
were asked for, and no number is given twice or left out. -/
theorem together_counted (rules : Rules) (interrupts : Wait → Bool) {hall : Hall} {n : Nat}
    (hn : hall.stores.counter = .ok (n : Int)) {requests : List Request}
    (h : ∀ request ∈ requests, request.TakesLock) {turns : Nat}
    (hturns : hall.ampleTurnsFor interrupts (requests.map (Request.job rules)) ≤ turns) :
    ∃ outcomes, ∃ m : Nat, n ≤ m ∧
      (hall.together interrupts (requests.map (Request.job rules)) turns).1 = outcomes.map .single ∧
      (hall.together interrupts (requests.map (Request.job rules)) turns).2.stores.counter =
        .ok (m : Int) ∧
      firstNumbers n ++ numbersGiven requests outcomes = firstNumbers m := by
  rw [together_eq_serve rules interrupts hall h hturns]
  obtain ⟨m, hle, hm, hnumbers⟩ := serve_counted rules hn requests
  exact ⟨_, m, hle, rfl, hm, hnumbers⟩

/-- Two creations over slow stores, which interrupt each other again and again. -/
example : (together (Wait.interrupts true) (ofSettings default {} 0)
    ([openQuiz, openQuiz].map (Request.job (Rules.ofSettings default asCharacters true))) 40).1 =
    [.single (.ok (.number 1)), .single (.ok (.number 2))] := rfl

end Hall

end QuizHall
