import QuizHall.Proofs.Hall.Atomicity
import QuizHall.Proofs.Hall.InOrder
import QuizHall.Proofs.Hall.Ratings
import QuizHall.Proofs.Hall.Soundness
import QuizHall.Proofs.Ledger

/-!
# What an Attempt Comes To

An attempt is decided by what is on record: the quiz with its key, the rating and the balance of the
account, and nothing else. `decideAttempt` makes this decision as a plain function of the records,
one reason to refuse after the other. The theorem of this module is that the operation, with all the
calls that it makes, comes to just that: the same fault with nothing changed, or the same score with
just those changes that are due.

Two things about the decision are not to be seen in the operation. The payment is checked twice
there, against the balance and by the ledger, and both checks together ask for no more than that the
existential deposit is left, or nothing if that is below zero. And a fault is of the kind that it is
raised for only if it can be put into words: a number that is too long for that makes it a fault of
another kind. `attempt_unaffordable_unsayable` is about an account that cannot pay and is not told
so.

## Main definitions

* `Records`, `Stores.ReadsAs`: what an attempt looks up, and stores that have it.
* `Refusal`, `Award`, `decideAttempt`: the decision.
* `Hall.Awarded`: the changes that are due to an attempt that is scored.

## Main results

* `Hall.Reached.readsAs`: everything is on record where requests have led.
* `Hall.attempt_decided`: every attempt comes to what is decided.
-/

namespace QuizHall

-- Powers are those of the core library, whatever else is imported.
attribute [local instance (2000)] instPowNat

/-! ### What is on record -/

/-- What stores have to tell to an attempt. -/
structure Records where
  /-- The quiz of each id. -/
  quiz? : String → Option Quiz
  /-- The key of the quiz of each id. -/
  key? : String → Option Answers
  /-- The rating of each account. -/
  rating : String → Int

/-- Stores **read as** records if all of their quizzes, keys and ratings decode, and these are
the records. -/
structure Stores.ReadsAs (s : Stores) (records : Records) : Prop where
  /-- Every quiz decodes. -/
  quiz? : ∀ id, s.quiz? id = .ok (records.quiz? id)
  /-- Every key decodes. -/
  key? : ∀ id, s.key? id = .ok (records.key? id)
  /-- Every rating decodes. -/
  rating : ∀ account, s.rating account = .ok (records.rating account)

/-- The records of stores; nothing is on record where something does not decode. -/
def Stores.records (s : Stores) : Records where
  quiz? := fun id => (s.quiz? id).toOption.join
  key? := fun id => (s.key? id).toOption.join
  rating := fun account => (s.rating account).toOption.getD 0

/-- Readable stores read as their records. -/
theorem Stores.Readable.readsAs {s : Stores} (h : s.Readable) : s.ReadsAs s.records where
  quiz? := fun id => by
    obtain ⟨quiz?, hquiz⟩ := h.quiz? id
    simp only [records, hquiz]
    rfl
  key? := fun id => by
    obtain ⟨key?, hkey⟩ := h.key? id
    simp only [records, hkey]
    rfl
  rating := fun account => by
    obtain ⟨n, hn⟩ := h.rating account
    simp only [records, hn]
    rfl

/-- Where requests have led to, everything can be read. -/
theorem Hall.Reached.readable {settings : Settings} {hash : HashService} {keepsEvents : Bool}
    {ledger : Ledger} {clock : Int} {hall : Hall}
    (h : Reached (Rules.ofSettings settings hash keepsEvents) (ofSettings settings ledger clock)
      hall) : hall.stores.Readable := by
  have hwellFormed := h.along
    (fun request => request.keepsWellFormed (Rules.ofSettings settings hash keepsEvents))
    (.ofSettings settings _)
  exact hwellFormed.sound.readable

/-- So the stores there read as their records. -/
theorem Hall.Reached.readsAs {settings : Settings} {hash : HashService} {keepsEvents : Bool}
    {ledger : Ledger} {clock : Int} {hall : Hall}
    (h : Reached (Rules.ofSettings settings hash keepsEvents) (ofSettings settings ledger clock)
      hall) : hall.stores.ReadsAs hall.stores.records :=
  h.readable.readsAs

/-! ### The decision -/

/-- A refusal: what kind of fault callers are to be told, and the fault that tells them why. -/
structure Refusal where
  /-- The kind of fault that the refusal is meant to be. -/
  kind : FaultKind
  /-- The fault that is raised. -/
  fault : Fault
  deriving DecidableEq

/-- A refusal is **proper** if its fault is of the kind that it is meant to be, unless a number in
the wording is too long. Only ratings, prices and balances can be too long. -/
structure Refusal.Proper (refusal : Refusal) : Prop where
  /-- A fault that can be put into words is of its kind. -/
  kind : refusal.fault.kind = if refusal.fault.isSayable then refusal.kind else .badValue
  /-- A fault that is not about ratings, prices and balances is of its kind. -/
  sayable : refusal.kind ≠ .ratingTooLow → refusal.kind ≠ .insufficientBalance →
    refusal.fault.kind = refusal.kind

/-- What a scored attempt comes to. -/
structure Award where
  /-- The account that made the attempt, and pays for it. -/
  account : String
  /-- The owner of the quiz, who is paid. -/
  owner : String
  /-- At how many of the five places the submission agrees with the key. -/
  score : Nat
  /-- The price of the wrong answers. -/
  cost : Int
  /-- The rating of the account from now on. -/
  rating : Int
  deriving DecidableEq

/-- **The decision on an attempt.** What speaks against it is looked at in this order. -/
def decideAttempt (rules : Rules) (records : Records) (ledger : Ledger) (ctx : CallContext)
    (sequence : Int) (submission : Answers) : Except Refusal Award :=
  match ctx.signer with
  | none => .error ⟨.unauthenticated, .unsigned⟩
  | some account =>
    if account = "" then .error ⟨.unauthenticated, .unsigned⟩
    else if ¬ (0 ≤ sequence ∧ sequence ≤ 2 ^ (64 : Nat) - 1) then
      .error ⟨.badValue, .beyondU64 sequence⟩
    else match records.quiz? (rules.idOf sequence) with
      | none => .error ⟨.quizNotFound, .noQuiz sequence⟩
      | some quiz =>
        let prior := records.rating account
        let required := max ((quiz.gate.val : Int) - 1) 0
        if account = quiz.owner then .error ⟨.ownerCannotAttempt, .ownAttempt sequence account⟩
        else if prior < required then
          .error ⟨.ratingTooLow, .ratingTooLow prior required sequence⟩
        else match records.key? (rules.idOf sequence) with
          | none => .error ⟨.quizNotFound, .noKey sequence⟩
          | some key =>
            let score := submission.score key
            let cost := (5 - (score : Int)) * rules.tokensPerQuestion
            if 0 < cost ∧ ledger.balance account - cost < max ledger.existentialDeposit 0 then
              .error ⟨.insufficientBalance, ledger.shortfall account cost⟩
            else
              .ok
                { account, owner := quiz.owner, score, cost
                  rating := if prior = 0 then score else (5 * prior + score) / 6 }

/-- A hall after an attempt that was **awarded**. -/
structure Hall.Awarded (rules : Rules) (sequence : Int) (award : Award) (before after : Hall) :
    Prop where
  /-- The account has paid. -/
  payer : after.ledger.balance award.account = before.ledger.balance award.account - award.cost
  /-- The owner was paid. -/
  owner : after.ledger.balance award.owner = before.ledger.balance award.owner + award.cost
  /-- Nobody else has more or less than before. -/
  others : ∀ account, account ≠ award.account → account ≠ award.owner →
    after.ledger.balance account = before.ledger.balance account
  /-- The existential deposit is the same. -/
  existentialDeposit : after.ledger.existentialDeposit = before.ledger.existentialDeposit
  /-- If there was nothing to pay, the ledger was not touched. -/
  free : award.cost = 0 → after.ledger = before.ledger
  /-- The account has its new rating. -/
  rating : after.stores.rating award.account = .ok award.rating
  /-- All other ratings, the quizzes and keys, the buckets and the counter are the same. -/
  stores : ∀ slot, slot ≠ .rating award.account → before.stores.AgreeOn after.stores slot
  /-- One event tells of the attempt. -/
  events : after.events =
    before.events ++ rules.kept [.scored sequence award.account award.score]
  /-- The tick is the same. -/
  clock : after.clock = before.clock
  /-- The same calls are out of order. -/
  outages : after.outages = before.outages

/-- What has to become of an attempt, by the decision on it. -/
def Hall.AttemptComesTo (rules : Rules) (sequence : Int) (before : Hall)
    (decision : Except Refusal Award) (outcome : Except Fault Nat) (after : Hall) : Prop :=
  match decision with
  | .error refusal => outcome = .error refusal.fault ∧ before.Untouched after
  | .ok award => outcome = .ok award.score ∧ before.Awarded rules sequence award after

/-! ### Refusals -/

/-- A refusal whose fault can be put into words is proper, if the kind is that of its cause. -/
theorem Refusal.Proper.of_isSayable {refusal : Refusal}
    (hcause : refusal.fault.causeKind = refusal.kind) (h : refusal.fault.isSayable = true) :
    refusal.Proper := by
  have hkind : refusal.fault.kind = refusal.kind := (Fault.kind_of_isSayable h).trans hcause
  refine ⟨?_, fun _ _ => hkind⟩
  rw [if_pos h, hkind]

/-- A number of 64 bits can be put into words. -/
theorem isSayable_of_isU64 {n : Int} (h : IsU64 n) {f : Fault} (hnumbers : f.numbers = [n]) :
    f.isSayable = true := by
  obtain ⟨hmin, hmax⟩ := h
  rw [u64Max] at hmax
  have hshort : n.natAbs < Fault.unwritable := Fault.lt_unwritable (by omega)
  rw [Fault.isSayable, hnumbers]
  simpa using hshort

/-- A shortfall is told to be one, if it can be put into words. -/
theorem Ledger.kind_shortfall (l : Ledger) (payer : String) (amount : Int) :
    (l.shortfall payer amount).kind =
      if (l.shortfall payer amount).isSayable then .insufficientBalance else .badValue := by
  rw [shortfall]
  split
  · rfl
  · split
    · rfl
    · next hsayable =>
      rw [Fault.kind, if_neg hsayable]

/-- A call that nobody has signed is refused for that. -/
theorem decideAttempt_of_unsigned {rules : Rules} {records : Records} {ledger : Ledger}
    {ctx : CallContext} {sequence : Int} {submission : Answers} {e : Fault}
    (h : ctx.sender = .error e) :
    decideAttempt rules records ledger ctx sequence submission =
      .error ⟨.unauthenticated, .unsigned⟩ := by
  rw [CallContext.sender] at h
  rw [decideAttempt]
  cases hsigner : ctx.signer with
  | none => rfl
  | some account =>
      simp only [hsigner] at h
      by_cases hempty : account = ""
      · exact if_pos hempty
      · rw [if_neg hempty] at h
        cases h

/-- **Every refusal of an attempt is proper.** -/
theorem proper_of_decideAttempt {rules : Rules} {records : Records} {ledger : Ledger}
    {ctx : CallContext} {sequence : Int} {submission : Answers} {refusal : Refusal}
    (h : decideAttempt rules records ledger ctx sequence submission = .error refusal) :
    refusal.Proper := by
  rw [decideAttempt] at h
  split at h
  · obtain rfl := Except.error.inj h
    exact .of_isSayable rfl rfl
  split at h
  · obtain rfl := Except.error.inj h
    exact .of_isSayable rfl rfl
  split at h
  · obtain rfl := Except.error.inj h
    have hkind : (Fault.beyondU64 sequence).kind = .badValue := ite_self _
    exact ⟨hkind.trans (ite_self _).symm, fun _ _ => hkind⟩
  next hnumber =>
  have hnumber : IsU64 sequence := not_not.mp hnumber
  split at h
  · obtain rfl := Except.error.inj h
    exact .of_isSayable rfl (isSayable_of_isU64 hnumber rfl)
  simp only at h
  split at h
  · obtain rfl := Except.error.inj h
    exact .of_isSayable rfl (isSayable_of_isU64 hnumber rfl)
  split at h
  · obtain rfl := Except.error.inj h
    exact ⟨rfl, fun hkind => absurd rfl hkind⟩
  split at h
  · obtain rfl := Except.error.inj h
    exact .of_isSayable rfl (isSayable_of_isU64 hnumber rfl)
  split at h
  · obtain rfl := Except.error.inj h
    exact ⟨ledger.kind_shortfall _ _, fun _ hkind => absurd rfl hkind⟩
  · cases h

/-! ### The operation comes to the decision -/

/-- The balances after a payment. -/
theorem Paid.balances {before after : Ledger} {payer owner : String} {amount : Int}
    (h : Paid before payer owner amount after) (hne : payer ≠ owner) :
    after.balance payer = before.balance payer - amount ∧
      after.balance owner = before.balance owner + amount ∧
      (∀ account, account ≠ payer → account ≠ owner →
        after.balance account = before.balance account) ∧
      after.existentialDeposit = before.existentialDeposit ∧ (amount = 0 → after = before) := by
  cases h with
  | nothing hzero =>
      subst hzero
      exact ⟨(Int.sub_zero _).symm, (Int.add_zero _).symm, fun _ _ _ => rfl, rfl, fun _ => rfl⟩
  | moved hamount hfree htransfer =>
      obtain ⟨-, rfl⟩ := Ledger.transfer_eq_ok hamount htransfer
      rw [Ledger.balance_move]
      refine ⟨?_, ?_, fun account hpayer howner => ?_, rfl, fun hzero => absurd hzero hamount⟩
      · rw [Function.update_of_ne hne, Function.update_self]
      · rw [Function.update_self, Function.update_of_ne hne.symm]
      · rw [Function.update_of_ne howner, Function.update_of_ne hpayer]

namespace Hall

variable {hall : Hall}

/-- Everything that is left to do after the payment is done, since the rating was read before. -/
theorem ends_awarded {rules : Rules} {sequence : Int} {account owner : String} {cost prior : Int}
    {ledger : Ledger} {score : Nat} {log : List LogRecord} {statements : List Statement}
    (inOrder : ∀ call, hall.outages.find? call = none) (hne : account ≠ owner)
    (hprior : hall.stores.rating account = .ok prior) (hscore : score ≤ maxScore)
    (hpaid : Paid hall.ledger account owner cost ledger) :
    (do
      let _ ← Act.updateRating account score (some prior)
      Act.note (.attempted sequence score) account
      Act.publish rules (.scored sequence account score)
      return score : Act Nat).Ends { hall with ledger, log, statements }
        fun outcome after => outcome = .ok score ∧
          hall.Awarded rules sequence
            { account, owner, score, cost
              rating := if prior = 0 then score else (5 * prior + score) / 6 } after := by
  obtain ⟨hpayer, howner, hothers, hdeposit, hfree⟩ := hpaid.balances hne
  refine .bind (.updateRating (by omega) (fun e he => ?_) fun stores log statements hsave => ?_)
  · obtain ⟨stores, hsave⟩ := Stores.exists_saveRating hprior (Rating.blend prior score)
    cases (he (inOrder .ratingSave)).symm.trans hsave
  refine .bind (.note fun log => .bind (.publish_eq (inOrder .emit) fun log => .answer ⟨rfl, ?_⟩))
  constructor
  case payer => exact hpayer
  case owner => exact howner
  case others => exact hothers
  case existentialDeposit => exact hdeposit
  case free => exact hfree
  case rating =>
    rw [← Rating.blend_eq]
    exact Stores.rating_blend (by omega) hprior hsave
  case stores => exact fun slot hslot => Stores.agreeOn_saveRating hsave hslot
  case events => rfl
  case clock => rfl
  case outages => rfl

/-- **An attempt under the lock comes to what is decided**, once it is known who makes it. -/
theorem ends_attemptBy_decided (rules : Rules) {records : Records}
    (inOrder : ∀ call, hall.outages.find? call = none) (hreads : hall.stores.ReadsAs records)
    {ctx : CallContext} {account : String} (hsender : ctx.sender = .ok account) (sequence : Int)
    (submission : Answers) :
    (Act.attemptBy rules account sequence submission).Ends hall
      (hall.AttemptComesTo rules sequence
        (decideAttempt rules records hall.ledger ctx sequence submission)) := by
  have hsame := Untouched.refl hall
  obtain ⟨hsigner, hnonempty⟩ := CallContext.sender_eq_ok_iff.mp hsender
  simp only [decideAttempt, hsigner, if_neg hnonempty]
  refine .bind (.derive_eq (fun hnone => ?_) fun hnumber => ?_)
  · replace hnone : ¬ (0 ≤ sequence ∧ sequence ≤ 2 ^ (64 : Nat) - 1) := hnone
    rw [if_pos hnone]
    exact ⟨rfl, hsame⟩
  replace hnumber : 0 ≤ sequence ∧ sequence ≤ 2 ^ (64 : Nat) - 1 := hnumber
  rw [if_neg (not_not.mpr hnumber)]
  refine .bind (.reading_eq (inOrder .quizGet) (hreads.quiz? _) ?_)
  cases hquiz : records.quiz? (rules.idOf sequence) with
  | none => exact .bind (.fail ⟨rfl, hsame⟩)
  | some quiz =>
      refine .bind (.answer (.bind (.ensure (fun howner => ?_) fun hother => ?_)))
      · rw [not_not] at howner
        simp only [if_pos howner]
        exact ⟨rfl, hsame⟩
      simp only [if_neg hother]
      refine .bind (.rating_eq (inOrder .ratingGet) (hreads.rating account) fun statements => ?_)
      have hsame' := hsame.withTraces hall.log statements
      refine .bind (.ensure (fun hlow => ?_) fun hgate => ?_)
      · rw [Rating.required, Int.not_le] at hlow
        rw [if_pos hlow]
        exact ⟨rfl, hsame'⟩
      rw [Rating.required, ← Int.not_lt] at hgate
      rw [if_neg hgate]
      refine .bind (.reading_eq (inOrder .quizGetKey) (hreads.key? _) ?_)
      cases hkey : records.key? (rules.idOf sequence) with
      | none => exact .bind (.fail ⟨rfl, hsame'⟩)
      | some key =>
          have hscore := submission.score_le key
          have hcost : 0 ≤ (5 - (submission.score key : Int)) * rules.tokensPerQuestion := by
            rw [maxScore] at hscore
            exact Int.mul_nonneg (by omega) rules.tokensPerQuestion_nonneg
          by_cases hshort : 0 < (5 - (submission.score key : Int)) * rules.tokensPerQuestion ∧
              hall.ledger.balance account -
                (5 - (submission.score key : Int)) * rules.tokensPerQuestion <
                  max hall.ledger.existentialDeposit 0
          · simp only [if_pos hshort]
            refine .bind (.answer (.bind (.pay_eq inOrder hcost (fun _ _ => ⟨rfl, hsame'⟩) ?_)))
            exact fun hpays => absurd hshort hpays
          · simp only [if_neg hshort]
            refine .bind (.answer (.bind (.pay_eq inOrder hcost ?_ fun _ ledger log hpaid => ?_)))
            · exact fun hpos hless => absurd ⟨hpos, hless⟩ hshort
            · exact ends_awarded inOrder hother (hreads.rating account) hscore hpaid

/-- **Every attempt comes to what is decided.** In a hall in which all records decode, an attempt
that is refused fails with the fault of the refusal, and leaves the hall untouched. An attempt that
is not refused gives its score: the account has paid the owner for the wrong answers, the score is
blended into its rating, one event tells of that, and nothing else has changed.

The fault of a refusal is of the kind that it is meant to be, unless it is about a rating, a price
or a balance with more digits than fit into a message. -/
theorem attempt_decided (rules : Rules) {records : Records}
    (inOrder : ∀ call, hall.outages.find? call = none) (hreads : hall.stores.ReadsAs records)
    (ctx : CallContext) (sequence : Int) (submission : Answers) :
    let decision := decideAttempt rules records hall.ledger ctx sequence submission
    let result := (Act.attempt rules ctx sequence submission).run hall
    hall.AttemptComesTo rules sequence decision result.1 result.2 ∧
      ∀ refusal, decision = .error refusal → refusal.Proper := by
  intro decision result
  refine ⟨?_, fun refusal hrefused => proper_of_decideAttempt hrefused⟩
  have hends : (Act.attempt rules ctx sequence submission).Ends hall
      (hall.AttemptComesTo rules sequence decision) := by
    refine .bind (.ofExcept (fun e he => ?_) fun account hsender => ?_)
    · have hunsigned : decision = .error ⟨.unauthenticated, .unsigned⟩ :=
        decideAttempt_of_unsigned he
      rw [hunsigned, CallContext.sender_eq_error he]
      exact ⟨rfl, .refl hall⟩
    · exact .locked (ends_attemptBy_decided rules inOrder hreads hsender sequence submission)
  exact hends

/-- A hall with an open quiz. A guest can pay for wrong answers, and a visitor has just the price of
one. -/
def withGuests : Hall :=
  (serve (Rules.ofSettings default asCharacters true)
    (ofSettings default { balances := Table.ofList [("guest", 100), ("visitor", 10)] })
    [openQuiz]).2

/-- Answers of which the last one is wrong. -/
def fourRight : Answers := { firstOptions with answer5 := ⟨2, by decide⟩ }

/-- The guest pays ten tokens to the owner and is rated four. The visitor could pay as much but
would not stay alive, and is told so. -/
theorem attempt_decided_guest_and_visitor :
    let rules := Rules.ofSettings default asCharacters true
    let guest := (Act.attempt rules ⟨some "guest"⟩ 1 fourRight).run withGuests
    let visitor := (Act.attempt rules ⟨some "visitor"⟩ 1 fourRight).run withGuests
    let fault := Fault.paymentRefused (.shortFunds "visitor" 10 10)
    (∀ call, withGuests.outages.find? call = none) ∧
    withGuests.stores.ReadsAs withGuests.stores.records ∧
    (guest.1 = .ok 4 ∧ withGuests.Awarded rules 1 ⟨"guest", "owner", 4, 10, 4⟩ guest.2) ∧
    visitor.1 = .error fault ∧ fault.kind = .insufficientBalance ∧
      withGuests.Untouched visitor.2 := by
  intro rules guest visitor fault
  have inOrder : ∀ call, withGuests.outages.find? call = none := fun _ => rfl
  have hreads : withGuests.stores.ReadsAs withGuests.stores.records :=
    ⟨fun _ => rfl, fun _ => rfl, fun _ => rfl⟩
  have h (account : String) := attempt_decided rules inOrder hreads ⟨some account⟩ 1 fourRight
  have hguest : decideAttempt rules withGuests.stores.records withGuests.ledger ⟨some "guest"⟩ 1
      fourRight = .ok ⟨"guest", "owner", 4, 10, 4⟩ := rfl
  have hvisitor : decideAttempt rules withGuests.stores.records withGuests.ledger
      ⟨some "visitor"⟩ 1 fourRight = .error ⟨.insufficientBalance, fault⟩ := by
    decide +kernel
  have hsayable : fault.isSayable = true := by decide +kernel
  obtain ⟨hawarded, -⟩ := h "guest"
  obtain ⟨hrefused, hproper⟩ := h "visitor"
  have hkind := (hproper _ hvisitor).kind
  rw [if_pos hsayable] at hkind
  rw [hguest] at hawarded
  rw [hvisitor] at hrefused
  exact ⟨inOrder, hreads, hawarded, hrefused.1, hkind, hrefused.2⟩

/-- Settings with the highest price of a wrong answer that fits into a message. -/
def highestPrice : Settings :=
  { (default : Settings) with
    tokensPerQuestion := (Fault.unwritable - 1 : Nat)
    tokensPerQuestion_nonneg := Int.natCast_nonneg _ }

/-- A hall with an open quiz at this price, and a guest with a thousand tokens. -/
def withHighestPrice : Hall :=
  (serve (Rules.ofSettings highestPrice asCharacters true)
    (ofSettings highestPrice { balances := Table.ofList [("guest", 1000)] }) [openQuiz]).2

/-- **Who cannot pay is not always told so.** The price of five wrong answers is beyond what the
guest has. The attempt is to be refused for that and for nothing else, but the price does not fit
into a message, and so the guest is told that a value is of no use. -/
theorem attempt_unaffordable_unsayable :
    let rules := Rules.ofSettings highestPrice asCharacters true
    let fault := Fault.shortBalance "guest" 1000 (5 * (Fault.unwritable - 1 : Nat))
    (∀ call, withHighestPrice.outages.find? call = none) ∧
    withHighestPrice.stores.ReadsAs withHighestPrice.stores.records ∧
    decideAttempt rules withHighestPrice.stores.records withHighestPrice.ledger ⟨some "guest"⟩ 1
      default = .error ⟨.insufficientBalance, fault⟩ ∧
    ((Act.attempt rules ⟨some "guest"⟩ 1 default).run withHighestPrice).1 = .error fault ∧
    fault.kind = .badValue := by
  intro rules fault
  have hreads : withHighestPrice.stores.ReadsAs withHighestPrice.stores.records :=
    ⟨fun _ => rfl, fun _ => rfl, fun _ => rfl⟩
  refine ⟨fun _ => rfl, hreads, ?_, ?_, ?_⟩
  · decide +kernel
  · decide +kernel
  · decide +kernel

end Hall

end QuizHall
