import QuizHall.Hall.Opening
import QuizHall.Hall.Request
import QuizHall.Proofs.Hall.Creation
import QuizHall.Proofs.Hall.Deletion
import QuizHall.Proofs.Hall.Scoring
import QuizHall.Proofs.Identifier

/-!
# Serving Requests

What every request does to a view, and what a list of requests does. `Served` says once and for all
what a single request can do; a fact that every request preserves holds after every run.

## Main results

* `Yields.serves`: every request yields an outcome and a view, as `Served` describes them.
* `Hall.serve_shows`: halls that show the same view give the same outcomes to a list of requests,
  and show the same view in the end.
* `Hall.serve_keeps`: what every request preserves holds after every run.
* `Hall.shows_ofSettings`: a new hall shows the empty view.
-/

namespace QuizHall

/-- **What a request does** to a view. -/
inductive Served (rules : Rules) (v : View) : Request → Except Fault Answer → View → Prop
  /-- A quiz is created, or refused. -/
  | create {ctx : CallContext} {questions : List Question} {key : Answers} {gate : Json.Value}
      {outcome : Except Fault Int} {v' : View}
      (h : Created rules ctx questions key gate v outcome v') :
      Served rules v (.create ctx questions key gate) (outcome.map .number) v'
  /-- A quiz is attempted, or the attempt is refused. -/
  | attempt {ctx : CallContext} {sequence : Int} {submission : Answers}
      {outcome : Except Fault Nat} {v' : View}
      (h : Attempted rules ctx sequence submission v outcome v') :
      Served rules v (.attempt ctx sequence submission)
        (outcome.map fun score : Nat => .number score) v'
  /-- A quiz is deleted by its owner, or the call is refused. -/
  | delete {ctx : CallContext} {sequence : Int} {outcome : Except Fault Unit} {v' : View}
      (h : Deleted rules ctx sequence v outcome v') :
      Served rules v (.delete ctx sequence) (outcome.map fun _ => .done) v'
  /-- A tick fires. -/
  | tick {now : Int} {outcome : Except Fault (List String)} {v' : View}
      (h : Fired rules now v outcome v') : Served rules v (.tick now) (outcome.map .ids) v'
  /-- The clock moves on. -/
  | advance : Served rules v .advance (.ok (.number (v.clock + 1))) { v with clock := v.clock + 1 }
  /-- The clock moves on, and the new tick fires. -/
  | step {outcome : Except Fault Int} {v' : View} (h : Stepped rules v outcome v') :
      Served rules v .step (outcome.map .number) v'
  /-- A number of steps are made. -/
  | loop {seconds : Float} {n : Nat} {outcome : Except Fault Unit} {v' : View}
      (h : Looped rules n v outcome v') (log : List LogRecord) :
      Served rules v (.loop seconds n) (outcome.map fun _ => .done) { v' with log }
  /-- A quiz is shown. -/
  | quiz (sequence : Int) :
      Served rules v (.quiz sequence)
        (((rules.derive sequence).map v.contents.quizzes.find?).map .quiz) v
  /-- A rating is shown. -/
  | rating (account : String) :
      Served rules v (.rating account) (.ok (.number (v.contents.rating account))) v
  /-- The counter is shown. -/
  | latest : Served rules v .latest (.ok (.number v.contents.counter)) v
  /-- A bucket is shown. -/
  | pending (due : Int) :
      Served rules v (.pending due)
        (((rules.derive due).map v.contents.bucket).map .ids) v

namespace Act.Yields

/-- What is read from an id is read if there is one. -/
theorem derived {α : Type} {rules : Rules} {v : View} {next : String → Act α} {f : String → α}
    (n : Int) (h : ∀ id, (next id).Yields v (.ok (f id)) v) :
    (Act.ofExcept (rules.derive n) >>= next).Yields v ((rules.derive n).map f) v := by
  cases rules.derive n with
  | error e => exact (ofExcept rfl v).bind_error
  | ok id => exact (ofExcept rfl v).bind (h id)

/-- The quiz of a number of 64 bits is the one in the contents. -/
theorem getQuiz {rules : Rules} {n : Int} (hn : IsU64 n) (v : View) :
    (Act.getQuiz rules n).Yields v (.ok (v.contents.quizzes.find? (rules.idOf n))) v :=
  (ofExcept (Rules.derive_of_isU64 hn) v).bind (quiz? (rules.idOf n) v)

/-- The key of a number of 64 bits is the one in the contents. -/
theorem getKey {rules : Rules} {n : Int} (hn : IsU64 n) (v : View) :
    (Act.getKey rules n).Yields v (.ok (v.contents.keys.find? (rules.idOf n))) v :=
  (ofExcept (Rules.derive_of_isU64 hn) v).bind (key? (rules.idOf n) v)

/-- **Every request is served** in a way that depends on the view alone. -/
theorem serves (rules : Rules) (request : Request) (v : View) :
    ∃ outcome v', (request.act rules).Yields v outcome v' ∧ Served rules v request outcome v' := by
  cases request with
  | create ctx questions key gate =>
      obtain ⟨outcome, v', hact, h⟩ := create rules ctx questions key gate v
      exact ⟨_, v', hact.map Answer.number, .create h⟩
  | attempt ctx sequence submission =>
      obtain ⟨outcome, v', hact, h⟩ := attempt rules ctx sequence submission v
      exact ⟨_, v', hact.map fun score : Nat => Answer.number score, .attempt h⟩
  | delete ctx sequence =>
      obtain ⟨outcome, v', hact, h⟩ := delete rules ctx sequence v
      exact ⟨_, v', hact.map fun _ => Answer.done, .delete h⟩
  | tick now =>
      obtain ⟨outcome, v', hact, h⟩ := onTick rules now v
      exact ⟨_, v', hact.map Answer.ids, .tick h⟩
  | advance => exact ⟨_, _, (advance v).map Answer.number, .advance⟩
  | step =>
      obtain ⟨outcome, v', hact, h⟩ := step rules v
      exact ⟨_, v', hact.map Answer.number, .step h⟩
  | loop seconds n =>
      obtain ⟨outcome, v', log, hact, h⟩ := loop rules seconds n v
      exact ⟨_, _, hact.map fun _ => Answer.done, .loop h log⟩
  | quiz sequence =>
      exact ⟨_, v, (derived sequence fun id => quiz? id v).map Answer.quiz, .quiz sequence⟩
  | rating account => exact ⟨_, v, (rating account v).map Answer.number, .rating account⟩
  | latest => exact ⟨_, v, (counter v).map Answer.number, .latest⟩
  | pending due =>
      exact ⟨_, v, (derived due fun id => bucket id v).map Answer.ids, .pending due⟩

end Act.Yields

namespace Hall

/-- **A list of requests is served** in a way that depends on the view alone. -/
theorem serve_shows (rules : Rules) (requests : List Request) (v : View) :
    ∃ outcomes v', ∀ p hall, hall.Shows p v →
      ∃ last, serve rules hall requests = (outcomes, last) ∧ last.Shows p v' := by
  induction requests generalizing v with
  | nil => exact ⟨[], v, fun p hall hshows => ⟨hall, rfl, hshows⟩⟩
  | cons request rest ih =>
      obtain ⟨outcome, v', hact, -⟩ := Act.Yields.serves rules request v
      obtain ⟨outcomes, v'', hrest⟩ := ih v'
      refine ⟨outcome :: outcomes, v'', fun p hall hshows => ?_⟩
      obtain ⟨hall', hrun, hshows'⟩ := hact p hall hshows
      obtain ⟨last, hserve, hlast⟩ := hrest p hall' hshows'
      refine ⟨last, ?_, hlast⟩
      rw [serve, hrun]
      simp only [hserve]

/-- After a list of requests a hall shows some view, in the place where it was. -/
theorem Shows.serve {hall : Hall} {p : Places} {v : View} (h : hall.Shows p v) (rules : Rules)
    (requests : List Request) : ∃ v', (Hall.serve rules hall requests).2.Shows p v' := by
  obtain ⟨outcomes, v', hserve⟩ := serve_shows rules requests v
  obtain ⟨last, hlast, hshows⟩ := hserve p hall h
  rw [hlast]
  exact ⟨v', hshows⟩

/-- **What every request preserves holds after every run.** -/
theorem serve_keeps {rules : Rules} {inv : View → Prop}
    (hinv : ∀ v v' request outcome, v.contents.InRange → inv v →
      Served rules v request outcome v' → inv v')
    {hall : Hall} {p : Places} {v : View} (hshows : hall.Shows p v) (hv : inv v)
    (requests : List Request) :
    ∃ v', (serve rules hall requests).2.Shows p v' ∧ inv v' := by
  induction requests generalizing hall v with
  | nil => exact ⟨v, hshows, hv⟩
  | cons request rest ih =>
      obtain ⟨outcome, v', hact, hserved⟩ := Act.Yields.serves rules request v
      obtain ⟨hall', hrun, hshows'⟩ := hact p hall hshows
      obtain ⟨v'', hshows'', hv''⟩ :=
        ih hshows' (hinv v v' request outcome hshows.inRange hv hserved)
      refine ⟨v'', ?_, hv''⟩
      rw [serve, hrun]
      exact hshows''

/-- A new hall has nothing in its stores, and no past. -/
theorem shows_ofSettings (settings : Settings) (ledger : Ledger) (clock : Int) :
    (ofSettings settings ledger clock).Shows settings.places
      { contents := {}, ledger, clock } :=
  ⟨.ofSettings settings, .empty, rfl, rfl, rfl, rfl, rfl, fun _ => rfl⟩

end Hall

end QuizHall
