import Mathlib.Data.List.Induction
import QuizHall.Proofs.Hall.Ending
import QuizHall.Proofs.Identifier
import QuizHall.Proofs.Store.Reach

/-!
# How an Operation Ends When Its Calls Are in Order

The rules of `Ending` hold in every hall, so they do not say why a call has failed: it may just be
out of order. The rules of this module are for calls that are in order. Then a call fails only if
its work fails, and what its work comes to can be read off the stores and the ledger before it. So
there is one case for each reason that is left, and every fault is known.

## Main definitions

* `Ledger.shortfall`: what a payer is told who cannot pay.
* `Hall.after`: the hall after a history of calls.

## Main results

* `Ends.derive_eq`: the id of a number.
* `Ends.reading_eq`, `Ends.rating_eq`, `Ends.saveRating_eq`, `Ends.publish_eq`: calls that do not
  fail.
* `Ends.pay_eq`: a payment, and when it is refused.
* `Ends.place_eq`, `Ends.add_eq`, `Ends.book_eq`: the steps of a creation.
* `Ends.fire_eq`: a tick.
* `Hall.after_induction`: from one call to a history.
-/

namespace QuizHall

/-- What a payer is told who cannot pay an amount. Whoever has less than the amount is told what is
needed. Anybody else would not stay alive, and is told so by the ledger. -/
def Ledger.shortfall (l : Ledger) (payer : String) (amount : Int) : Fault :=
  let free := l.balance payer
  let refused := Fault.shortFunds payer amount free
  if free < amount then .shortBalance payer free amount
  else if refused.isSayable then .paymentRefused refused
  else refused

namespace Act.Ends

variable {α : Type} {hall : Hall}

/-! ### Calls that do not fail -/

/-- A number of 64 bits has its id, and any other number is refused. -/
theorem derive_eq {rules : Rules} {n : Int} {q : Except Fault String → Hall → Prop}
    (hnone : ¬ IsU64 n → q (.error (.beyondU64 n)) hall)
    (hok : IsU64 n → q (.ok (rules.idOf n)) hall) :
    (Act.ofExcept (rules.derive n)).Ends hall q := by
  refine ofExcept (fun e he => ?_) fun id hid => ?_
  · rw [Rules.eq_beyondU64_of_derive he]
    exact hnone (Rules.not_isU64_of_derive he)
  · obtain ⟨hn, rfl⟩ := Rules.derive_eq_ok_iff.mp hid
    exact hok hn

/-- What is looked up is what there is. -/
theorem reading_eq {call : Call} {f : Hall → Except Fault α} {x : Except Fault α}
    {q : Except Fault α → Hall → Prop} (inOrder : hall.outages.find? call = none)
    (hx : f hall = x) (h : q x hall) : (call.reading f).Ends hall q := by
  rw [Ends, Call.run_reading inOrder, hx]
  exact h

/-- A rating that can be read is looked up. -/
theorem rating_eq {account : String} {n : Int} {q : Except Fault Int → Hall → Prop}
    (inOrder : hall.outages.find? .ratingGet = none) (hn : hall.stores.rating account = .ok n)
    (h : ∀ statements, q (.ok n) { hall with statements }) : (Act.rating account).Ends hall q := by
  refine mapped (fun e he => ?_) fun m hm => ?_
  · cases (he inOrder).symm.trans hn
  · obtain rfl := Except.ok.inj (hm.symm.trans hn)
    obtain ⟨statements, hsend⟩ := hall.exists_send (.select account)
    rw [hsend]
    exact h statements

/-- A rating that can be read is replaced. -/
theorem saveRating_eq {account : String} {n m : Int} {q : Except Fault Unit → Hall → Prop}
    (inOrder : hall.outages.find? .ratingSave = none) (hn : hall.stores.rating account = .ok n)
    (h : ∀ stores statements, hall.stores.saveRating account m = .ok stores →
      q (.ok ()) { hall with stores, statements }) : (Act.saveRating account m).Ends hall q := by
  refine saveRating (fun e he => ?_) h
  obtain ⟨stores, hsave⟩ := Stores.exists_saveRating hn m
  cases (he inOrder).symm.trans hsave

/-- An event is published: it is kept, if events are kept at all. -/
theorem publish_eq {rules : Rules} {event : Event} {q : Except Fault Unit → Hall → Prop}
    (inOrder : hall.outages.find? .emit = none)
    (h : ∀ log, q (.ok ()) { hall with events := hall.events ++ rules.kept [event], log }) :
    (Act.publish rules event).Ends hall q := by
  refine rescue (writing (fun e he => ?_) fun a hall' hf => ?_)
  · cases he inOrder
  · obtain ⟨-, rfl⟩ := Prod.mk.inj (Except.ok.inj hf)
    rw [Rules.kept] at h
    cases hkeeps : rules.keepsEvents with
    | true =>
        rw [hkeeps] at h
        exact h _
    | false =>
        rw [hkeeps] at h
        have hsame := h hall.log
        rw [if_neg Bool.false_ne_true, List.append_nil] at hsame
        exact hsame

/-! ### The payment -/

/-- **A payment is refused to those who would not stay alive**, and made by everybody else. What has
to be left is the existential deposit, but never less than nothing: even an account that may go
below zero does not get credit. -/
theorem pay_eq {payer owner : String} {amount : Int} {q : Except Fault Unit → Hall → Prop}
    (inOrder : ∀ call, hall.outages.find? call = none) (hamount : 0 ≤ amount)
    (herror : 0 < amount →
      hall.ledger.balance payer - amount < max hall.ledger.existentialDeposit 0 →
        q (.error (hall.ledger.shortfall payer amount)) hall)
    (hok : ¬ (0 < amount ∧
      hall.ledger.balance payer - amount < max hall.ledger.existentialDeposit 0) →
        ∀ ledger log, Paid hall.ledger payer owner amount ledger →
          q (.ok ()) { hall with ledger, log }) :
    (Act.pay payer owner amount).Ends hall q := by
  rw [Act.pay]
  by_cases hzero : amount = 0
  · rw [if_pos hzero]
    exact hok (by omega) hall.ledger hall.log (.nothing hzero)
  rw [if_neg hzero]
  have hpos : 0 < amount := by omega
  refine bind (reading_eq (inOrder .balanceGet) rfl ?_)
  refine bind (ensure (fun hshort => ?_) fun hfree => ?_)
  · have hless : hall.ledger.balance payer < amount := Int.not_le.mp hshort
    have hrefused := herror hpos (by omega)
    rw [Ledger.shortfall, if_pos hless] at hrefused
    exact hrefused
  have hcovered : ¬ hall.ledger.balance payer < amount := Int.not_lt.mpr hfree
  have htransfer : hall.ledger.transfer payer owner amount true =
      if hall.ledger.balance payer - amount < hall.ledger.existentialDeposit then
        .error (.shortFunds payer amount (hall.ledger.balance payer))
      else .ok (hall.ledger.move payer owner amount) := by
    rw [Ledger.transfer, if_neg (by omega), if_neg hzero]
    rfl
  refine rescue (mapped (fun e he => ?_) fun ledger hledger => ?_)
  · have he' := he (inOrder .transfer)
    rw [htransfer] at he'
    split at he'
    · next hleft =>
      obtain rfl := Except.error.inj he'
      have hrefused := herror hpos (by omega)
      rw [Ledger.shortfall, if_neg hcovered] at hrefused
      refine fail ?_
      rw [Fault.kind]
      split
      · next hsayable =>
        rw [if_pos hsayable] at hrefused
        exact hrefused
      · next hsayable =>
        rw [if_neg hsayable] at hrefused
        exact hrefused
    · cases he'
  · have hleft : ¬ hall.ledger.balance payer - amount < hall.ledger.existentialDeposit := by
      intro hleft
      rw [htransfer, if_pos hleft] at hledger
      cases hledger
    exact hok (by omega) ledger _ (.moved hzero hfree hledger)

/-! ### The steps of a creation -/

/-- **A quiz is placed** under its id, unless something is kept there. -/
theorem place_eq {sequence : Int} {id : String} {quiz : Quiz} {key : Answers}
    {q : Except Fault Unit → Hall → Prop} (inOrder : hall.outages.find? .quizCreate = none)
    (hreach : hall.stores.Reachable)
    (htaken : hall.stores.keepsQuiz id ∨ hall.stores.keepsKey id →
      ∀ log, q (.error (.idTaken id)) { hall with log })
    (hok : ¬ (hall.stores.keepsQuiz id ∨ hall.stores.keepsKey id) →
      ∀ stores, hall.stores.createQuiz id quiz key = .ok stores →
        q (.ok ()) { hall with stores }) : (Act.place sequence id quiz key).Ends hall q := by
  by_cases hkept : hall.stores.keepsQuiz id ∨ hall.stores.keepsKey id
  · have hcreate := Stores.createQuiz_of_kept hreach hkept quiz key
    refine rescue (storing (fun e he => ?_) fun stores hstores => ?_)
    · obtain rfl := Except.error.inj ((he inOrder).symm.trans hcreate)
      exact bind (note fun log => fail (htaken hkept log))
    · cases hstores.symm.trans hcreate
  · obtain ⟨placed, hcreate⟩ := Stores.exists_createQuiz hreach hkept quiz key
    refine rescue (storing (fun e he => ?_) fun stores hstores => hok hkept stores hstores)
    cases (he inOrder).symm.trans hcreate

/-- **An id is scheduled**, if its tick has a bucket and no text stands in its place. -/
theorem add_eq {rules : Rules} {now : Int} {id : String} {q : Except Fault Int → Hall → Prop}
    (inOrder : hall.outages.find? .bucketAppend = none) (hreach : hall.stores.Reachable)
    (hnone : ¬ IsU64 (now + rules.delay) → q (.error (.beyondU64 (now + rules.delay))) hall)
    (htext : IsU64 (now + rules.delay) →
      hall.stores.hasTextFor (rules.idOf (now + rules.delay)) = true →
        q (.error .wrongEntry) hall)
    (hok : IsU64 (now + rules.delay) →
      hall.stores.hasTextFor (rules.idOf (now + rules.delay)) = false → ∀ stores log,
        hall.stores.appendBucket (rules.idOf (now + rules.delay)) id = .ok stores →
          q (.ok (now + rules.delay)) { hall with stores, log }) :
    (rules.schedule.add now id).Ends hall q := by
  refine bind (derive_eq hnone fun hdue => ?_)
  refine bind (storing (fun e he => ?_) fun stores happend => ?_)
  · cases hlist : hall.stores.hasTextFor (rules.idOf (now + rules.delay)) with
    | true =>
        have hrefused := Stores.appendBucket_of_text hreach hlist id
        obtain rfl := Except.error.inj ((he inOrder).symm.trans hrefused)
        exact htext hdue hlist
    | false =>
        obtain ⟨stores, happend, -⟩ := Stores.exists_appendBucket hreach hlist id
        cases (he inOrder).symm.trans happend
  · cases hlist : hall.stores.hasTextFor (rules.idOf (now + rules.delay)) with
    | true => cases happend.symm.trans (Stores.appendBucket_of_text hreach hlist id)
    | false => exact bind (note fun log => answer (hok hdue hlist stores log happend))

/-- **A new quiz is scheduled and counted**, if it can be scheduled: a counter that was read can
be moved on. -/
theorem book_eq {rules : Rules} {n : Int} {id : String} {q : Except Fault Int → Hall → Prop}
    (inOrder : ∀ call, hall.outages.find? call = none) (hn : hall.stores.counter = .ok n)
    (hnone : ¬ IsU64 (hall.clock + rules.delay) →
      q (.error (.beyondU64 (hall.clock + rules.delay))) hall)
    (htext : IsU64 (hall.clock + rules.delay) →
      hall.stores.hasTextFor (rules.idOf (hall.clock + rules.delay)) = true →
        q (.error .wrongEntry) hall)
    (hok : IsU64 (hall.clock + rules.delay) →
      hall.stores.hasTextFor (rules.idOf (hall.clock + rules.delay)) = false →
        ∀ stores stores' log,
          hall.stores.appendBucket (rules.idOf (hall.clock + rules.delay)) id = .ok stores →
            stores.putCounter (n + 1) = .ok stores' →
              q (.ok (hall.clock + rules.delay)) { hall with stores := stores', log }) :
    (Act.book rules (n + 1) id).Ends hall q := by
  refine bind (get (bind (add_eq (inOrder .bucketAppend) (.of_counter hn) hnone htext ?_)))
  intro hdue hlist stores log happend
  have hframe : hall.stores.AgreeOn stores .counter := Stores.agreeOn_appendBucket happend (by simp)
  have hn' : stores.counter = .ok n := Eq.trans hframe hn
  obtain ⟨stores', hput⟩ := Stores.exists_putCounter hn' (Int.lt_succ n)
  refine bind (storing (fun e he => ?_) fun stores'' hput' => ?_)
  · cases (he (inOrder .counterPut)).symm.trans hput
  · exact answer (hok hdue hlist stores stores'' log happend hput')

/-! ### Ticks -/

/-- **A tick fires**: its bucket is emptied, if it has one, and the ids that were in it are
given. -/
theorem fire_eq {rules : Rules} {tick : Int} {ids : List String}
    {q : Except Fault (List String) → Hall → Prop}
    (inOrder : hall.outages.find? .bucketDrain = none)
    (hnone : ¬ IsU64 tick → q (.error (.beyondU64 tick)) hall)
    (hids : IsU64 tick → hall.stores.bucket (rules.idOf tick) = .ok ids)
    (hok : IsU64 tick → ∀ stores log,
      hall.stores.drainBucket (rules.idOf tick) = .ok (.ok ids, stores) →
        q (.ok ids) { hall with stores, log }) : (rules.schedule.fire tick).Ends hall q := by
  refine bind (derive_eq hnone fun htick => ?_)
  obtain ⟨stores, hdrain⟩ := Stores.exists_drainBucket (hids htick)
  refine bind (bind (mapped (fun e he => ?_) fun ⟨ids?, stores'⟩ hdrain' => ?_))
  · cases (he inOrder).symm.trans hdrain
  obtain ⟨rfl, rfl⟩ := Prod.mk.inj (Except.ok.inj (hdrain'.symm.trans hdrain))
  change Ends (do
    if ids ≠ [] then Act.note (.fired tick ids.length)
    return ids) { hall with stores := stores' } q
  by_cases hnil : ids ≠ []
  · rw [if_pos hnil]
    exact bind (note fun log => answer (hok htick stores' log hdrain))
  · rw [if_neg hnil]
    exact bind (answer (answer (hok htick stores' hall.log hdrain)))

end Act.Ends

/-! ### Histories -/

namespace Hall

variable {ι α : Type}

/-- The hall after a history of calls, each of which stands for an operation. -/
def after (hall : Hall) (act : ι → Act α) (history : List ι) : Hall :=
  history.foldl (fun hall call => ((act call).run hall).2) hall

/-- **What every call keeps holds after every history**, if it holds at first. It may speak of the
history, which grows at its end. -/
theorem after_induction {hall : Hall} {act : ι → Act α} {P : List ι → Hall → Prop}
    (hstart : P [] hall)
    (hcall : ∀ history call before, P history before →
      (act call).Ends before fun _ after => P (history ++ [call]) after) (history : List ι) :
    P history (hall.after act history) := by
  induction history using List.reverseRecOn with
  | nil => exact hstart
  | append_singleton history call ih =>
      rw [after, List.foldl_append]
      exact hcall history call _ ih

end Hall

end QuizHall
