import QuizHall.Hall.Service
import QuizHall.Rating

/-!
# Attempts

An account attempts a quiz by answering its five questions. It needs a rating that the gate lets
through, pays the owner for every wrong answer, and has the score blended into its rating. The
payment comes first: an attempt that cannot be paid leaves the rating as it is.

## Main definitions

* `CallContext.sender`: the account that a call is made by.
* `Act.pay`: the payment.
* `Act.updateRating`: the change of a rating.
* `Act.attemptBy`, `Act.attempt`: the attempt of an account, and of a caller.
-/

namespace QuizHall

/-- The account that a call is made by: its signer, which must not be empty. -/
def CallContext.sender (ctx : CallContext) : Except Fault String :=
  match ctx.signer with
  | some account => if account = "" then .error .unsigned else .ok account
  | none => .error .unsigned

namespace Act

/-- What a refused transfer means to an attempt: the account cannot pay. Any other fault is
passed on. -/
def refuse (fault : Fault) : Act Unit :=
  throw (if fault.kind = .insufficientFunds then .paymentRefused fault else fault)

/-- Pays an owner, and leaves the payer alive. The ledger is not even asked about a payment of
nothing. -/
def pay (payer owner : String) (amount : Int) : Act Unit :=
  if amount = 0 then pure ()
  else do
    let free ← balance payer
    ensure (amount ≤ free) (.shortBalance payer free amount)
    (transfer payer owner amount true).rescue refuse

/-- Blends a score into the rating of an account and gives the new rating. The rating before is
looked up, unless it is given. -/
def updateRating (account : String) (score : Int) (prior? : Option Int) : Act Int := do
  ofExcept (Rating.checkScore score)
  let prior ← match prior? with
    | some prior => pure prior
    | none => rating account
  let blended := Rating.blend prior score
  saveRating account blended
  note (.rated prior blended) account
  return blended

/-- What an account pays to the owner for an attempt with a score. -/
def cost (rules : Rules) (score : Nat) : Int := (maxScore - score) * rules.tokensPerQuestion

/-- Scores a submission of an account to the quiz of a number, charges the account for the wrong
answers, and gives the score. -/
def attemptBy (rules : Rules) (sender : String) (sequence : Int) (submission : Answers) :
    Act Nat := do
  let id ← ofExcept (rules.derive sequence)
  let quiz ← found (.noQuiz sequence) (← quiz? id)
  ensure (sender ≠ quiz.owner) (.ownAttempt sequence sender)
  let prior ← rating sender
  let required := Rating.required quiz.gate.val
  ensure (required ≤ prior) (.ratingTooLow prior required sequence)
  let key ← found (.noKey sequence) (← key? id)
  let score := submission.score key
  pay sender quiz.owner (cost rules score)
  let _ ← updateRating sender score (some prior)
  note (.attempted sequence score) sender
  publish rules (.scored sequence sender score)
  return score

/-- Scores a submission of the caller under the lock. -/
def attempt (rules : Rules) (ctx : CallContext) (sequence : Int) (submission : Answers) :
    Act Nat := do
  let sender ← ofExcept ctx.sender
  locked (attemptBy rules sender sequence submission)

end Act

end QuizHall
