import QuizHall.Proofs.Hall.Along
import QuizHall.Proofs.Hall.History
import QuizHall.Proofs.Hall.InOrder

/-!
# A Positive Rating Never Rises

The first score of an account is its rating, and from then on the rating can only fall: a score that
is no worse leaves it as it is, a worse one costs at least a point. So a rating above the best score
will not come back once it is lost, and who is new gets no further than the best score. Gates that
ask for more than that let nobody through.

Only attempts change ratings, and what an attempt does to the rating of an account is said by
`Rated`. This holds in every hall, whatever is in its stores and whichever calls are out of order,
so it carries over to runs by induction.

## Main definitions

* `Request.GetsThrough`: an attempt of an account that has an answer.
* `Rated`: what a request does to the rating of an account.

## Main results

* `Act.ends_updateRating`: an update stores the blend of the rating and the score.
* `Request.ends_rated`: every request does to a rating what `Rated` says.
* `Hall.positive_rating_never_rises`: what a run does to ratings, and which gates stay shut.
-/

namespace QuizHall

/-! ### What a request does to a rating -/

/-- A request **gets an account through** if it is an attempt of the account, and has an answer. -/
def Request.GetsThrough (account : String) (request : Request) (outcome : Except Fault Answer) :
    Prop :=
  ∃ sequence submission answer,
    request = .attempt ⟨some account⟩ sequence submission ∧ outcome = .ok answer

/-- **What a request does** to the rating of an account. -/
inductive Rated (account : String) (prior : Int) :
    Request → Except Fault Answer → Int → Prop
  /-- The rating stays as it is, unless the account has got through an attempt. -/
  | same (request : Request) (outcome : Except Fault Answer)
      (hnot : ¬ request.GetsThrough account outcome) : Rated account prior request outcome prior
  /-- The account attempts a quiz, and its score is blended into the rating. -/
  | scored (sequence : Int) (submission : Answers) {score : Nat} (hscore : score ≤ maxScore) :
      Rated account prior (.attempt ⟨some account⟩ sequence submission) (.ok (.number score))
        (Rating.blend prior score)

namespace Rated

variable {account : String} {prior rating : Int} {request : Request}
  {outcome : Except Fault Answer}

/-- No rating falls below zero. -/
theorem nonneg (h : Rated account prior request outcome rating) (hprior : 0 ≤ prior) :
    0 ≤ rating := by
  cases h with
  | same request outcome hnot => exact hprior
  | @scored sequence submission score hscore =>
      rw [Rating.blend_eq]
      split <;> omega

/-- **A positive rating does not rise.** -/
theorem le (h : Rated account prior request outcome rating) (hprior : 1 ≤ prior) :
    rating ≤ prior := by
  cases h with
  | same request outcome hnot => exact Int.le_refl prior
  | @scored sequence submission score hscore =>
      by_cases hle : prior ≤ (score : Int)
      · exact Int.le_of_eq (Rating.blend_of_le hprior hle (by omega))
      · obtain ⟨-, hworse⟩ := Rating.blend_of_lt (Int.natCast_nonneg score) (Int.not_le.mp hle)
        omega

/-- **Who gains was rated zero**, and gains just the score. -/
theorem of_lt (h : Rated account prior request outcome rating) (hprior : 0 ≤ prior)
    (hlt : prior < rating) : prior = 0 ∧ outcome = .ok (.number rating) := by
  have hzero : prior = 0 := by
    by_contra hne
    have hle := h.le (by omega)
    omega
  subst hzero
  cases h with
  | same request outcome hnot => exact absurd hlt (Int.lt_irrefl 0)
  | scored sequence submission hscore =>
      rw [Rating.blend_eq, if_pos rfl]
      exact ⟨rfl, rfl⟩

/-- A rating that is in range stays in range. -/
theorem bounds (h : Rated account prior request outcome rating)
    (hprior : 0 ≤ prior ∧ prior ≤ (maxScore : Int)) : 0 ≤ rating ∧ rating ≤ (maxScore : Int) := by
  cases h with
  | same request outcome hnot => exact hprior
  | scored sequence submission hscore => exact Rating.blend_bounds hprior (by omega)

/-- Who does not get through an attempt keeps the rating. -/
theorem eq_of_not (h : Rated account prior request outcome rating)
    (hnot : ¬ request.GetsThrough account outcome) : rating = prior := by
  cases h with
  | same request outcome hnot' => rfl
  | @scored sequence submission score hscore =>
      exact absurd ⟨sequence, submission, _, rfl, rfl⟩ hnot

/-- **Who gets through is rated anew**: the score that is answered is blended into the rating. -/
theorem blend_of_ok {sequence : Int} {submission : Answers} {answer : Answer}
    (h : Rated account prior (.attempt ⟨some account⟩ sequence submission) (.ok answer) rating) :
    ∃ score : Nat, answer = .number score ∧ score ≤ maxScore ∧
      rating = Rating.blend prior score := by
  cases h with
  | same request outcome hnot => exact absurd ⟨sequence, submission, answer, rfl, rfl⟩ hnot
  | @scored sequence submission score hscore => exact ⟨score, rfl, hscore, rfl⟩

end Rated

/-- What is stored for a score is read back. -/
theorem Stores.rating_blend {s s' : Stores} {account : String} {prior score : Int}
    (hscore : 0 ≤ score ∧ score ≤ (maxScore : Int)) (hprior : s.rating account = .ok prior)
    (hsave : s.saveRating account (Rating.blend prior score) = .ok s') :
    s'.rating account = .ok (Rating.blend prior score) := by
  refine rating_saveRating hsave fun hredis => ?_
  have hread := natAbs_lt_of_rating hredis hprior
  have hbest : maxScore < Fault.unwritable := Fault.lt_unwritable (by decide)
  exact Nat.lt_of_le_of_lt (Rating.natAbs_blend_le hscore) (max_lt hread hbest)

/-- **A rating is updated by a score** to the blend of both, which is stored and given as the
answer. -/
theorem Act.ends_updateRating {hall : Hall} (inOrder : ∀ call, hall.outages.find? call = none)
    {account : String} {prior score : Int} (hprior : hall.stores.rating account = .ok prior)
    (hscore : 0 ≤ score ∧ score ≤ (maxScore : Int)) :
    (Act.updateRating account score none).Ends hall fun outcome after =>
      outcome = .ok (Rating.blend prior score) ∧
        after.stores.rating account = .ok (Rating.blend prior score) := by
  have hcheck : Rating.checkScore score = .ok () := if_pos hscore
  refine .bind (.ofExcept (fun e he => ?_) fun _ _ => ?_)
  · cases he.symm.trans hcheck
  refine .bind (.rating_eq (inOrder .ratingGet) hprior fun _ => ?_)
  refine .bind (.saveRating_eq (inOrder .ratingSave) hprior fun stores _ hsave => ?_)
  exact .bind (.note fun _ => .answer ⟨rfl, Stores.rating_blend hscore hprior hsave⟩)

/-- An attempt blends the score of its signer into the rating of the signer, or leaves ratings as
they are. -/
theorem Act.ends_attempt_rated (rules : Rules) (ctx : CallContext) (sequence : Int)
    (submission : Answers) {hall : Hall} {account : String} {prior : Int}
    (hprior : hall.stores.rating account = .ok prior) :
    (Request.act rules (.attempt ctx sequence submission)).Ends hall fun outcome after =>
      ∃ rating, after.stores.rating account = .ok rating ∧
        Rated account prior (.attempt ctx sequence submission) outcome rating := by
  have hsame (e : Fault) : ∃ rating, hall.stores.rating account = .ok rating ∧
      Rated account prior (.attempt ctx sequence submission) (.error e) rating := by
    refine ⟨prior, hprior, .same _ _ ?_⟩
    rintro ⟨_, _, answer, -, hanswer⟩
    cases hanswer
  refine .map (.bind (.ofExcept (fun e _ => hsame e) fun sender hsender => ?_))
  refine .locked (.attemptBy_of_admits (fun e _ => hsame e) (fun e _ _ _ _ _ _ _ _ _ => hsame e) ?_)
  intro quiz key prior' stores ledger events log statements hadmits _ hsave
  obtain ⟨signer⟩ := ctx
  obtain rfl : signer = some sender := (CallContext.sender_eq_ok_iff.mp hsender).1
  by_cases haccount : account = sender
  · subst haccount
    obtain rfl : prior' = prior := Except.ok.inj (hadmits.rating.symm.trans hprior)
    have hscore := submission.score_le key
    have hstored := Stores.rating_blend (by omega) hprior hsave
    exact ⟨_, hstored, .scored sequence submission hscore⟩
  · have hframe : hall.stores.AgreeOn stores (.rating account) :=
      Stores.agreeOn_saveRating hsave (by simpa using haccount)
    refine ⟨prior, Eq.trans hframe hprior, .same _ _ ?_⟩
    rintro ⟨_, _, _, hrequest, -⟩
    cases hrequest
    exact haccount rfl

/-- **Every request does to a rating what `Rated` says**, in every hall in which the rating can be
read. -/
theorem Request.ends_rated (rules : Rules) (request : Request) {hall : Hall} {account : String}
    {prior : Int} (hprior : hall.stores.rating account = .ok prior) :
    (request.act rules).Ends hall fun outcome after => ∃ rating,
      after.stores.rating account = .ok rating ∧ Rated account prior request outcome rating := by
  by_cases htouches : request.Touches (.rating account)
  case neg =>
    refine (Request.leaves rules (.rating account) htouches hall).imp fun outcome after hafter => ?_
    refine ⟨prior, Eq.trans hafter hprior, .same request outcome ?_⟩
    rintro ⟨_, _, _, rfl, -⟩
    exact htouches ⟨account, rfl⟩
  cases request with
  | attempt ctx sequence submission =>
      exact Act.ends_attempt_rated rules ctx sequence submission hprior
  | create ctx questions key gate => cases htouches
  | _ => exact htouches.elim

namespace Hall

/-! ### Runs -/

/-- What holds of the rating of an account, and is kept by whatever `Rated` allows, holds after
every run. -/
theorem serve_rated (rules : Rules) {account : String} {inv : Int → Prop}
    (hinv : ∀ prior rating request outcome, inv prior →
      Rated account prior request outcome rating → inv rating)
    {hall : Hall} {prior : Int} (hprior : hall.stores.rating account = .ok prior) (h : inv prior)
    (requests : List Request) :
    ∃ rating, (serve rules hall requests).2.stores.rating account = .ok rating ∧ inv rating := by
  induction requests generalizing hall prior with
  | nil => exact ⟨prior, hprior, h⟩
  | cons request rest ih =>
      obtain ⟨rating, hrating, hrated⟩ := request.ends_rated rules hprior
      exact ih hrating (hinv prior rating request _ h hrated)

/-- **A positive rating never rises in a run**, unless it comes to zero on the way. -/
theorem serve_le {rules : Rules} {hall : Hall} {account : String} {prior : Int}
    (hprior : hall.stores.rating account = .ok prior) (hpos : 1 ≤ prior)
    (requests : List Request) :
    (∃ rating, (serve rules hall requests).2.stores.rating account = .ok rating ∧
      rating ≤ prior) ∨
    ∃ earlier later, requests = earlier ++ later ∧
      (serve rules hall earlier).2.stores.rating account = .ok 0 := by
  induction requests generalizing hall prior with
  | nil => exact .inl ⟨prior, hprior, Int.le_refl prior⟩
  | cons request rest ih =>
      obtain ⟨rating, hrating, hrated⟩ := request.ends_rated rules hprior
      have hmin := hrated.nonneg (by omega)
      have hle := hrated.le hpos
      by_cases hzero : rating = 0
      · subst hzero
        exact .inr ⟨[request], rest, rfl, hrating⟩
      · rcases ih hrating (by omega) with ⟨last, hlast, hlastLe⟩ | ⟨earlier, later, rfl, hreset⟩
        · exact .inl ⟨last, hlast, by omega⟩
        · exact .inr ⟨request :: earlier, later, rfl, hreset⟩

/-! ### Gates that stay shut -/

/-- **A gate that asks for more than the best score stays shut** as long as nobody is rated better
than that: whoever attempts the quiz is refused, and neither the stores nor the ledger change. -/
theorem attempt_of_gate {rules : Rules} {hall : Hall} {sequence : Int} {id : String} {quiz : Quiz}
    (hratings : ∀ account rating, hall.stores.rating account = .ok rating →
      rating ≤ (maxScore : Int))
    (hid : rules.derive sequence = .ok id) (hquiz : hall.stores.quiz? id = .ok (some quiz))
    (hgate : maxScore + 2 ≤ quiz.gate.val) (ctx : CallContext) (submission : Answers) :
    (Act.attempt rules ctx sequence submission).Ends hall fun outcome after =>
      (∃ e, outcome = .error e) ∧ after.stores = hall.stores ∧ after.ledger = hall.ledger := by
  have hrefused (sender : String) (quiz' : Quiz) (key : Answers) (prior : Int) :
      ¬ hall.Admits rules sender sequence quiz' key prior := by
    intro hadmits
    obtain ⟨id', hid', hquiz', -⟩ := hadmits.stored
    obtain rfl : id' = id := Except.ok.inj (hid'.symm.trans hid)
    obtain rfl : quiz' = quiz := Option.some.inj (Except.ok.inj (hquiz'.symm.trans hquiz))
    have hprior := hratings sender prior hadmits.rating
    have hrequired := hadmits.gate
    rw [Rating.required] at hrequired
    omega
  refine .bind (.ofExcept (fun e _ => ⟨⟨e, rfl⟩, rfl, rfl⟩) fun sender _ => ?_)
  refine .locked (.attemptBy_of_admits (fun e _ => ⟨⟨e, rfl⟩, rfl, rfl⟩) ?_ ?_)
  · intro e quiz' key prior _ _ _ hadmits
    exact absurd hadmits (hrefused sender quiz' key prior)
  · intro quiz' key prior _ _ _ _ _ hadmits
    exact absurd hadmits (hrefused sender quiz' key prior)

/-- In a new hall nobody has a rating yet, whatever backend ratings are kept on. -/
theorem rating_ofSettings (settings : Settings) (ledger : Ledger) (clock : Int) (account : String) :
    (ofSettings settings ledger clock).stores.rating account = .ok 0 := by
  have hshows := shows_ofSettings settings ledger clock
  exact hshows.stores.rating hshows.inRange account

/-- **A positive rating never rises.** Blended with a score of five answers it stays what it is if
the score is no worse, and comes to lie between the score and one point below itself otherwise. The
blend is what an update stores and answers.

So a run of requests, in whatever state it begins, leaves everybody who had a positive rating with
no more than that, unless the rating came to zero on the way. Whoever gets through an attempt has
the score blended into the rating, no other request changes a rating, and whoever gains at any time
was rated zero before and is rated by the score then. Where nobody was rated in the beginning, all
ratings stay between zero and five, and nobody gets through a gate of seven or more, which costs
nobody anything. -/
theorem positive_rating_never_rises (rules : Rules) :
    (∀ prior score : Int, 1 ≤ prior → 0 ≤ score → score ≤ 5 →
      (prior ≤ score → Rating.blend prior score = prior) ∧
      (score < prior → score ≤ Rating.blend prior score ∧ Rating.blend prior score ≤ prior - 1)) ∧
    (∀ (hall : Hall) account prior, (∀ call, hall.outages.find? call = none) →
      hall.stores.rating account = .ok prior → ∀ score : Int, 0 ≤ score → score ≤ 5 →
      let result := (Act.updateRating account score none).run hall
      result.1 = .ok (Rating.blend prior score) ∧
        result.2.stores.rating account = .ok (Rating.blend prior score)) ∧
    (∀ (hall : Hall) account prior, hall.stores.rating account = .ok prior → 0 ≤ prior →
      ∀ requests, let last := (serve rules hall requests).2
      ∃ rating, last.stores.rating account = .ok rating ∧ 0 ≤ rating ∧
        (1 ≤ prior → rating ≤ prior ∨ ∃ earlier later, requests = earlier ++ later ∧
          (serve rules hall earlier).2.stores.rating account = .ok 0) ∧
        ∀ request : Request, let result := (request.act rules).run last
        ∃ next, result.2.stores.rating account = .ok next ∧
          (∀ sequence submission answer, request = .attempt ⟨some account⟩ sequence submission →
            result.1 = .ok answer → ∃ score : Nat, answer = .number score ∧ score ≤ 5 ∧
              next = Rating.blend rating score) ∧
          (¬ request.GetsThrough account result.1 → next = rating) ∧
          (1 ≤ rating → next ≤ rating) ∧
          (rating < next → rating = 0 ∧ result.1 = .ok (.number next))) ∧
    ∀ hall : Hall, (∀ account, hall.stores.rating account = .ok 0) →
      ∀ requests, let last := (serve rules hall requests).2
      (∀ account, ∃ rating, last.stores.rating account = .ok rating ∧ 0 ≤ rating ∧ rating ≤ 5) ∧
      ∀ ctx sequence submission id quiz, rules.derive sequence = .ok id →
        last.stores.quiz? id = .ok (some quiz) → 7 ≤ quiz.gate.val →
        let (outcome, after) := (Act.attempt rules ctx sequence submission).run last
        (∃ e, outcome = .error e) ∧ after.stores = last.stores ∧ after.ledger = last.ledger := by
  refine ⟨fun prior score hprior hmin hmax => ⟨fun hle => ?_, fun hlt => ?_⟩, ?_, ?_, ?_⟩
  · exact Rating.blend_of_le hprior hle hmax
  · exact Rating.blend_of_lt hmin hlt
  · intro hall account prior inOrder hprior score hmin hmax
    exact Act.ends_updateRating inOrder hprior ⟨hmin, hmax⟩
  · intro hall account prior hprior hmin requests last
    obtain ⟨rating, hrating, hnonneg⟩ := serve_rated rules
      (fun _ _ _ _ h hrated => Rated.nonneg hrated h) hprior hmin requests
    refine ⟨rating, hrating, hnonneg, fun hpos => ?_, fun request => ?_⟩
    · rcases serve_le hprior hpos requests with ⟨rating', hrating', hle⟩ | hreset
      · obtain rfl : rating' = rating := Except.ok.inj (hrating'.symm.trans hrating)
        exact .inl hle
      · exact .inr hreset
    · intro result
      obtain ⟨next, hnext, hrated⟩ := request.ends_rated rules hrating
      refine ⟨next, hnext, fun sequence submission answer hrequest hanswer => ?_, hrated.eq_of_not,
        hrated.le, hrated.of_lt hnonneg⟩
      replace hrated : Rated account rating request result.1 next := hrated
      rw [hrequest, hanswer] at hrated
      exact hrated.blend_of_ok
  · intro hall hunrated requests last
    have hbounds (account : String) : ∃ rating, last.stores.rating account = .ok rating ∧
        0 ≤ rating ∧ rating ≤ (maxScore : Int) :=
      serve_rated rules (fun _ _ _ _ h hrated => Rated.bounds hrated h) (hunrated account)
        (by decide) requests
    refine ⟨hbounds, fun ctx sequence submission id quiz hid hquiz hgate => ?_⟩
    refine attempt_of_gate (fun account rating hrating => ?_) hid hquiz hgate ctx submission
    obtain ⟨rating', hrating', -, hle⟩ := hbounds account
    obtain rfl : rating' = rating := Except.ok.inj (hrating'.symm.trans hrating)
    exact hle

/-- A quiz of five empty questions behind a gate of seven. -/
def shutQuiz : Request :=
  .create ⟨some "owner"⟩ (List.replicate 5 default) firstOptions (.int 7)

/-- Rules that keep events and tell byte strings apart. -/
def plainRules : Rules := Rules.ofSettings default asCharacters true

/-- A new hall with this quiz. -/
def withShutQuiz : Hall := (serve plainRules (ofSettings default) [shutQuiz]).2

/-- A hall in which a guest was rated nine before it was opened, with a quiz that anybody may
attempt. -/
def ratedNine : Hall :=
  let hall := ofSettings default { balances := Table.ofList [("guest", 100)] }
  let stores := { hall.stores with ratings := .memory (Table.ofList [("guest", 9)]) }
  (serve plainRules { hall with stores } [openQuiz]).2

/-- A rating of nine comes down to eight with the best score, whether by an update or by an attempt,
and nobody gets through a gate of seven in a new hall. -/
theorem positive_rating_never_rises_nine_and_shut :
    let updated := (Act.updateRating "guest" 5 none).run ratedNine
    let attempted := ((Request.attempt ⟨some "guest"⟩ 1 firstOptions).act plainRules).run ratedNine
    (5 ≤ Rating.blend 9 5 ∧ Rating.blend 9 5 ≤ 8) ∧
    (∀ call, ratedNine.outages.find? call = none) ∧ ratedNine.stores.rating "guest" = .ok 9 ∧
    (updated.1 = .ok 8 ∧ updated.2.stores.rating "guest" = .ok 8) ∧
    (attempted.1 = .ok (.number 5) ∧ attempted.2.stores.rating "guest" = .ok 8) ∧
    (∀ account, (ofSettings default).stores.rating account = .ok 0) ∧
    ∃ id quiz, plainRules.derive 1 = .ok id ∧
      withShutQuiz.stores.quiz? id = .ok (some quiz) ∧ 7 ≤ quiz.gate.val ∧
      ∃ e, ((Act.attempt plainRules ⟨some "guest"⟩ 1 firstOptions).run withShutQuiz).1 =
        .error e := by
  obtain ⟨hblend, hupdates, hruns, hnew⟩ := positive_rating_never_rises plainRules
  have inOrder : ∀ call, ratedNine.outages.find? call = none := fun _ => rfl
  have hnine : ratedNine.stores.rating "guest" = .ok 9 := rfl
  have height : Rating.blend 9 5 = 8 := by decide
  have hzero := rating_ofSettings default {} 0
  refine ⟨(hblend 9 5 (by decide) (by decide) (by decide)).2 (by decide), inOrder, hnine, ?_, ?_,
    hzero, ?_⟩
  · have hupdated := hupdates ratedNine "guest" 9 inOrder hnine 5 (by decide) (by decide)
    rw [height] at hupdated
    exact hupdated
  · have hscored : (((Request.attempt ⟨some "guest"⟩ 1 firstOptions).act plainRules).run
        ratedNine).1 = .ok (.number 5) := by decide +kernel
    obtain ⟨rating, hrating, -, -, hnext⟩ := hruns ratedNine "guest" 9 hnine (by decide) []
    obtain rfl : rating = 9 := Except.ok.inj (hrating.symm.trans hnine)
    obtain ⟨next, hstored, hblended, -⟩ := hnext (.attempt ⟨some "guest"⟩ 1 firstOptions)
    obtain ⟨score, hanswer, -, hnext⟩ := hblended 1 firstOptions _ rfl hscored
    have hfive : (5 : Int) = score := Answer.number.inj hanswer
    rw [hnext, ← hfive, height] at hstored
    exact ⟨hscored, hstored⟩
  · have hgate := (hnew (ofSettings default) hzero [shutQuiz]).2 ⟨some "guest"⟩ 1 firstOptions
    exact ⟨_, _, rfl, rfl, by decide, (hgate _ _ rfl rfl (by decide)).1⟩

end Hall

end QuizHall
