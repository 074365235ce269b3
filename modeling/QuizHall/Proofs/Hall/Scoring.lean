import QuizHall.Hall.Attempt
import QuizHall.Proofs.Hall.View

/-!
# Attempting a Quiz

What an attempt does to a view. Either nothing happens, or the account has paid for its wrong
answers, its rating is the blend of the rating before and the score, and one event is published.
Quizzes, keys, buckets and the counter are left as they are in any case.

## Main results

* `Rating.blend_eq`, `Rating.blend_bounds`: the rating after a score, and its range.
* `Rating.blend_of_le`, `Rating.blend_of_lt`: a rating that is positive does not rise.
* `Yields.attempt`: the attempt.
* `Yields.attempt_refused`: why an attempt fails.
* `Yields.attempt_missing`: an attempt of a quiz that is not there.
-/

namespace QuizHall

namespace Rating

/-- **The rating after a score**: the first score counts as it is, later ones weigh a sixth. -/
theorem blend_eq (prior score : Int) :
    blend prior score = if prior = 0 then score else (5 * prior + score) / 6 := by
  rw [blend, historyWeight]
  split
  · next hzero =>
    rw [hzero, Int.fdiv_eq_ediv_of_nonneg _ (by omega)]
    omega
  · rw [Int.fdiv_eq_ediv_of_nonneg _ (by omega)]
    congr 1
    omega

/-- **A score that is no worse changes nothing**: even the best one does not lift a rating. -/
theorem blend_of_le {prior score : Int} (hprior : 1 ≤ prior) (hle : prior ≤ score)
    (hscore : score ≤ (maxScore : Int)) : blend prior score = prior := by
  rw [maxScore] at hscore
  rw [blend_eq, if_neg (by omega)]
  omega

/-- **A worse score costs at least one point**, and never more than the distance to it. -/
theorem blend_of_lt {prior score : Int} (hscore : 0 ≤ score) (hlt : score < prior) :
    score ≤ blend prior score ∧ blend prior score ≤ prior - 1 := by
  rw [blend_eq, if_neg (by omega)]
  omega

/-- **A rating stays in range**: the blend of a rating and a score that are in range is in range. -/
theorem blend_bounds {prior score : Int} (hprior : 0 ≤ prior ∧ prior ≤ (maxScore : Int))
    (hscore : 0 ≤ score ∧ score ≤ (maxScore : Int)) :
    0 ≤ blend prior score ∧ blend prior score ≤ (maxScore : Int) := by
  rw [maxScore] at *
  rw [blend_eq]
  split <;> omega

/-- A rating does not grow beyond what it was, or what a score can be; below zero neither. -/
theorem natAbs_blend_le {prior score : Int} (hscore : 0 ≤ score ∧ score ≤ (maxScore : Int)) :
    (blend prior score).natAbs ≤ max prior.natAbs maxScore := by
  rw [maxScore] at *
  rw [blend_eq]
  split <;> omega

end Rating

/-- The ledger after a payment. The ledger is not touched by a payment of nothing; any other
payment is a transfer that the free balance covers and that leaves the payer alive. -/
inductive Paid (before : Ledger) (payer owner : String) (amount : Int) : Ledger → Prop
  /-- Nothing was to be paid. -/
  | nothing (h : amount = 0) : Paid before payer owner amount before
  /-- The amount was moved. -/
  | moved {ledger : Ledger} (h : amount ≠ 0) (hfree : amount ≤ before.balance payer)
      (htransfer : before.transfer payer owner amount true = .ok ledger) :
      Paid before payer owner amount ledger

/-- **Why a payment is refused**: the payer has less, or the ledger does not move the amount. -/
inductive Unpaid (before : Ledger) (payer owner : String) (amount : Int) : Fault → Prop
  /-- The free balance does not cover the amount. -/
  | short (h : ¬ amount ≤ before.balance payer) :
      Unpaid before payer owner amount (.shortBalance payer (before.balance payer) amount)
  /-- The transfer is refused. -/
  | refused {fault : Fault} (h : before.transfer payer owner amount true = .error fault) :
      Unpaid before payer owner amount
        (if fault.kind = .insufficientFunds then .paymentRefused fault else fault)

/-- **What an attempt does** to a view. -/
inductive Attempted (rules : Rules) (ctx : CallContext) (sequence : Int) (submission : Answers)
    (v : View) : Except Fault Nat → View → Prop
  /-- The attempt is refused. -/
  | refused (e : Fault) : Attempted rules ctx sequence submission v (.error e) v
  /-- The attempt is scored, paid for and announced. -/
  | done {sender id : String} {quiz : Quiz} {key : Answers} {ledger : Ledger}
      (hsender : ctx.sender = .ok sender) (hid : rules.derive sequence = .ok id)
      (hquiz : v.contents.quizzes.find? id = some quiz) (hother : sender ≠ quiz.owner)
      (hgate : Rating.required quiz.gate.val ≤ v.contents.rating sender)
      (hkey : v.contents.keys.find? id = some key)
      (hpaid : Paid v.ledger sender quiz.owner (Act.cost rules (submission.score key)) ledger)
      (log : List LogRecord) :
      Attempted rules ctx sequence submission v (.ok (submission.score key))
        { v with
          contents := v.contents.withRating sender
            (Rating.blend (v.contents.rating sender) (submission.score key))
          ledger
          events := v.events ++ rules.kept [.scored sequence sender (submission.score key)]
          log }

/-- **Why an attempt is refused** that somebody has signed. -/
inductive AttemptRefused (rules : Rules) (sender : String) (sequence : Int) (submission : Answers)
    (v : View) : Fault → Prop
  /-- The number has no id. -/
  | noNumber {e : Fault} (hid : rules.derive sequence = .error e) :
      AttemptRefused rules sender sequence submission v e
  /-- There is no such quiz. -/
  | noQuiz {id : String} (hid : rules.derive sequence = .ok id)
      (hquiz : v.contents.quizzes.find? id = none) :
      AttemptRefused rules sender sequence submission v (.noQuiz sequence)
  /-- The quiz belongs to the sender. -/
  | own {id : String} {quiz : Quiz} (hid : rules.derive sequence = .ok id)
      (hquiz : v.contents.quizzes.find? id = some quiz) (howner : ¬ sender ≠ quiz.owner) :
      AttemptRefused rules sender sequence submission v (.ownAttempt sequence sender)
  /-- The gate does not let the sender through. -/
  | ratingTooLow {id : String} {quiz : Quiz} (hid : rules.derive sequence = .ok id)
      (hquiz : v.contents.quizzes.find? id = some quiz)
      (hgate : ¬ Rating.required quiz.gate.val ≤ v.contents.rating sender) :
      AttemptRefused rules sender sequence submission v
        (.ratingTooLow (v.contents.rating sender) (Rating.required quiz.gate.val) sequence)
  /-- The quiz has no key. -/
  | noKey {id : String} {quiz : Quiz} (hid : rules.derive sequence = .ok id)
      (hquiz : v.contents.quizzes.find? id = some quiz)
      (hkey : v.contents.keys.find? id = none) :
      AttemptRefused rules sender sequence submission v (.noKey sequence)
  /-- The sender cannot pay for the wrong answers. -/
  | unpaid {id : String} {quiz : Quiz} {key : Answers} {e : Fault}
      (hid : rules.derive sequence = .ok id)
      (hquiz : v.contents.quizzes.find? id = some quiz)
      (hkey : v.contents.keys.find? id = some key)
      (hpay : Unpaid v.ledger sender quiz.owner (Act.cost rules (submission.score key)) e) :
      AttemptRefused rules sender sequence submission v e

/-- The clock stands still while a quiz is attempted. -/
theorem Attempted.clock {rules : Rules} {ctx : CallContext} {sequence : Int}
    {submission : Answers} {v v' : View} {outcome : Except Fault Nat}
    (h : Attempted rules ctx sequence submission v outcome v') : v'.clock = v.clock := by
  cases h <;> rfl

namespace Act.Yields

variable {v : View}

/-- A payment is made, or refused without a trace. -/
theorem pay (payer owner : String) (amount : Int) (v : View) :
    (∃ e, (Act.pay payer owner amount).Yields v (.error e) v ∧
        Unpaid v.ledger payer owner amount e) ∨
      ∃ ledger log, (Act.pay payer owner amount).Yields v (.ok ()) { v with ledger, log } ∧
        Paid v.ledger payer owner amount ledger := by
  rw [Act.pay]
  by_cases hzero : amount = 0
  · rw [if_pos hzero]
    exact .inr ⟨v.ledger, v.log, answer () v, .nothing hzero⟩
  rw [if_neg hzero]
  by_cases hfree : amount ≤ v.ledger.balance payer
  · cases htransfer : v.ledger.transfer payer owner amount true with
    | error e =>
        exact .inl ⟨_, (balance payer v).bind ((ensure hfree _ v).bind
          ((transfer_error htransfer).rescue_error (fail _ v))), .refused htransfer⟩
    | ok ledger =>
        exact .inr ⟨ledger, _, (balance payer v).bind ((ensure hfree _ v).bind
          (transfer htransfer).rescue), .moved hzero hfree htransfer⟩
  · exact .inl ⟨_, (balance payer v).bind (ensure_error hfree _ v).bind_error, .short hfree⟩

/-- A score is blended into the rating of an account, which was looked up before. -/
theorem updateRating {score : Int} (hscore : 0 ≤ score ∧ score ≤ (maxScore : Int))
    (account : String) (v : View) :
    ∃ log, (Act.updateRating account score (some (v.contents.rating account))).Yields v
      (.ok (Rating.blend (v.contents.rating account) score))
      { v with
        contents := v.contents.withRating account
          (Rating.blend (v.contents.rating account) score)
        log } := by
  have hcheck : Rating.checkScore score = .ok () := by
    rw [Rating.checkScore]
    exact if_pos hscore
  have hblend (hrange : v.contents.InRange) :=
    Rating.blend_bounds (hrange.rating_bounds account) hscore
  exact ⟨_, (ofExcept hcheck v).bind ((answer _ v).bind ((saveRating hblend account).bind
    ((note (.rated _ _) account _).bind (answer _ _))))⟩

/-- Under the lock nobody attempts a quiz that is not there. -/
theorem attemptBy_missing {rules : Rules} {sequence : Int} {id : String}
    (hid : rules.derive sequence = .ok id) (hquiz : v.contents.quizzes.find? id = none)
    (sender : String) (submission : Answers) :
    (Act.attemptBy rules sender sequence submission).Yields v (.error (.noQuiz sequence)) v :=
  (ofExcept hid v).bind ((quiz? id v).bind (found_none hquiz _ v).bind_error)

/-- Under the lock an attempt of a quiz is refused by one of the checks, which change nothing, or
goes through all of them. -/
theorem attemptBy {rules : Rules} {sequence : Int} {id : String} {quiz : Quiz}
    (hid : rules.derive sequence = .ok id) (hquiz : v.contents.quizzes.find? id = some quiz)
    (sender : String) (submission : Answers) :
    ∃ outcome v', (Act.attemptBy rules sender sequence submission).Yields v outcome v' ∧
      (∀ ctx : CallContext, ctx.sender = .ok sender →
        Attempted rules ctx sequence submission v outcome v') ∧
      ∀ e, outcome = .error e → AttemptRefused rules sender sequence submission v e := by
  have hwhy {e : Fault} (h : AttemptRefused rules sender sequence submission v e) (e' : Fault)
      (he : (Except.error e : Except Fault Nat) = .error e') :
      AttemptRefused rules sender sequence submission v e' :=
    Except.error.inj he ▸ h
  by_cases hother : sender ≠ quiz.owner
  case neg =>
    exact ⟨_, _, (ofExcept hid v).bind ((quiz? id v).bind ((found hquiz _ v).bind
      (ensure_error hother _ v).bind_error)), fun _ _ => .refused _, hwhy (.own hid hquiz hother)⟩
  by_cases hgate : Rating.required quiz.gate.val ≤ v.contents.rating sender
  case neg =>
    exact ⟨_, _, (ofExcept hid v).bind ((quiz? id v).bind ((found hquiz _ v).bind
      ((ensure hother _ v).bind ((rating sender v).bind (ensure_error hgate _ v).bind_error)))),
      fun _ _ => .refused _, hwhy (.ratingTooLow hid hquiz hgate)⟩
  cases hkey : v.contents.keys.find? id with
  | none =>
      exact ⟨_, _, (ofExcept hid v).bind ((quiz? id v).bind ((found hquiz _ v).bind
        ((ensure hother _ v).bind ((rating sender v).bind ((ensure hgate _ v).bind
          ((key? id v).bind (found_none hkey _ v).bind_error)))))), fun _ _ => .refused _,
        hwhy (.noKey hid hquiz hkey)⟩
  | some key =>
      rcases pay sender quiz.owner (cost rules (submission.score key)) v with
        ⟨e, hpay, hunpaid⟩ | ⟨ledger, log, hpay, hpaid⟩
      · exact ⟨_, _, (ofExcept hid v).bind ((quiz? id v).bind ((found hquiz _ v).bind
          ((ensure hother _ v).bind ((rating sender v).bind ((ensure hgate _ v).bind
            ((key? id v).bind ((found hkey _ v).bind hpay.bind_error))))))), fun _ _ => .refused e,
          hwhy (.unpaid hid hquiz hkey hunpaid)⟩
      · have hscore := submission.score_le key
        obtain ⟨log', hrated⟩ := updateRating
          (show 0 ≤ (submission.score key : Int) ∧ (submission.score key : Int) ≤ maxScore by omega)
          sender { v with ledger, log }
        obtain ⟨log'', hpublish⟩ := publish rules
          (.scored sequence sender (submission.score key)) _
        exact ⟨_, _, (ofExcept hid v).bind ((quiz? id v).bind ((found hquiz _ v).bind
          ((ensure hother _ v).bind ((rating sender v).bind ((ensure hgate _ v).bind
            ((key? id v).bind ((found hkey _ v).bind (hpay.bind (hrated.bind
              ((note _ sender _).bind (hpublish.bind (answer _ _)))))))))))),
          fun _ hsender => .done hsender hid hquiz hother hgate hkey hpaid log'',
          fun e he => by cases he⟩

/-- Nobody attempts a quiz that is not there. -/
theorem attempt_missing {rules : Rules} {ctx : CallContext} {sequence : Int} {id sender : String}
    (hsender : ctx.sender = .ok sender) (hid : rules.derive sequence = .ok id)
    (hquiz : v.contents.quizzes.find? id = none) (submission : Answers) :
    (Act.attempt rules ctx sequence submission).Yields v (.error (.noQuiz sequence)) v :=
  (ofExcept hsender v).bind (attemptBy_missing hid hquiz sender submission).locked

/-- An attempt is scored and paid for, or refused for one of the reasons that there are. -/
theorem attempt_or_refused (rules : Rules) (ctx : CallContext) (sequence : Int)
    (submission : Answers) (v : View) :
    ∃ outcome v', (Act.attempt rules ctx sequence submission).Yields v outcome v' ∧
      Attempted rules ctx sequence submission v outcome v' ∧
      ∀ e, outcome = .error e → ctx.sender = .error e ∨
        ∃ sender, ctx.sender = .ok sender ∧
          AttemptRefused rules sender sequence submission v e := by
  cases hsender : ctx.sender with
  | error e =>
      exact ⟨_, _, (ofExcept hsender v).bind_error, .refused e,
        fun e' he => .inl (congrArg Except.error (Except.error.inj he))⟩
  | ok sender =>
      cases hid : rules.derive sequence with
      | error e =>
          refine ⟨_, _, (ofExcept hsender v).bind (locked (ofExcept hid v).bind_error), .refused e,
            fun e' he => .inr ⟨sender, rfl, ?_⟩⟩
          exact Except.error.inj he ▸ .noNumber hid
      | ok id =>
          cases hquiz : v.contents.quizzes.find? id with
          | none =>
              refine ⟨_, _, attempt_missing hsender hid hquiz submission, .refused _,
                fun e' he => .inr ⟨sender, rfl, ?_⟩⟩
              exact Except.error.inj he ▸ .noQuiz hid hquiz
          | some quiz =>
              obtain ⟨outcome, v', hattempt, hattempted, hwhy⟩ :=
                attemptBy hid hquiz sender submission
              exact ⟨_, _, (ofExcept hsender v).bind hattempt.locked, hattempted ctx hsender,
                fun e he => .inr ⟨sender, rfl, hwhy e he⟩⟩

/-- **An attempt** is scored and paid for, or does nothing. -/
theorem attempt (rules : Rules) (ctx : CallContext) (sequence : Int) (submission : Answers)
    (v : View) :
    ∃ outcome v', (Act.attempt rules ctx sequence submission).Yields v outcome v' ∧
      Attempted rules ctx sequence submission v outcome v' := by
  obtain ⟨outcome, v', hattempt, hattempted, -⟩ :=
    attempt_or_refused rules ctx sequence submission v
  exact ⟨outcome, v', hattempt, hattempted⟩

/-- **An attempt that fails** is not signed, or refused for one of the reasons that there are. -/
theorem attempt_refused {rules : Rules} {ctx : CallContext} {sequence : Int} {submission : Answers}
    {hall : Hall} {p : Places} {e : Fault} (hshows : hall.Shows p v)
    (h : ((Act.attempt rules ctx sequence submission).run hall).1 = .error e) :
    ctx.sender = .error e ∨ ∃ sender, ctx.sender = .ok sender ∧
      AttemptRefused rules sender sequence submission v e := by
  obtain ⟨outcome, v', hattempt, -, hwhy⟩ := attempt_or_refused rules ctx sequence submission v
  exact hwhy e ((hattempt.outcome_eq hshows).symm.trans h)

end Act.Yields

end QuizHall
