import Mathlib.Algebra.Ring.Int.Defs
import QuizHall.Hall.Opening
import QuizHall.Proofs.Hall.Ending
import QuizHall.Proofs.Ledger

/-!
# Tokens Are Neither Made nor Lost

Only a deposit brings tokens into the ledger of a hall. A transfer moves them, and a call that
fails does nothing at all, so after any list of calls all balances together are what they were in
the beginning and what has been deposited since.

What one call does is said once, by `Settled`. The facts about single balances are read off it. No
balance falls below zero, since even a transfer that may empty its source may not overdraw it. If
all transfers have to leave their source alive, an account that has the existential deposit keeps
it: as a source it is left that much, and otherwise it only gains. A transfer from an account to
itself needs no case of its own in any of this, because the destination is read after the source
was charged.

## Main definitions

* `LedgerCall`, `Hall.settle`: the calls to a ledger, and a hall after a list of them.
* `Settled`: what a call does to a ledger.

## Main results

* `LedgerCall.ends_settled`: every call does what `Settled` says, in every hall.
* `Hall.settle_conserves`: what a list of calls does to the balances.
-/

namespace QuizHall

/-! ### Calls to the ledger -/

/-- What a ledger can be asked to change. -/
inductive LedgerCall where
  /-- Add tokens to an account. -/
  | deposit (account : String) (amount : Int)
  /-- Move tokens from one account to another. -/
  | transfer (source dest : String) (amount : Int) (keepAlive : Bool)

namespace LedgerCall

/-- The operation that carries out a call. -/
def act : LedgerCall → Act Unit
  | deposit account amount => Act.deposit account amount
  | transfer source dest amount keepAlive => Act.transfer source dest amount keepAlive

/-- The tokens that a call brings into the ledger, by its outcome. -/
def brought : LedgerCall → Except Fault Unit → Int
  | deposit _ amount, .ok _ => amount
  | deposit .., .error _ => 0
  | transfer .., _ => 0

/-- Whether a call has to leave the account alive that pays; nobody pays for a deposit. -/
def KeepsAlive : LedgerCall → Prop
  | deposit .. => True
  | transfer _ _ _ keepAlive => keepAlive = true

end LedgerCall

/-- The outcomes of a list of calls to the ledger, and the hall in the end. A call that fails does
not keep the next one from being made. -/
def Hall.settle (hall : Hall) : List LedgerCall → List (Except Fault Unit) × Hall
  | [] => ([], hall)
  | call :: rest =>
    let (outcome, hall') := call.act.run hall
    let (outcomes, last) := hall'.settle rest
    (outcome :: outcomes, last)

/-! ### One call -/

/-- **What a call does** to a ledger. -/
inductive Settled (before : Ledger) : LedgerCall → Except Fault Unit → Ledger → Prop
  /-- The call is refused. -/
  | refused (call : LedgerCall) (e : Fault) : Settled before call (.error e) before
  /-- Tokens are added to an account. -/
  | deposited {account : String} {amount : Int} (hamount : 0 ≤ amount) :
      Settled before (.deposit account amount) (.ok ())
        (before.setBalance account (before.balance account + amount))
  /-- Nothing was to be moved. -/
  | idle (source dest : String) (keepAlive : Bool) :
      Settled before (.transfer source dest 0 keepAlive) (.ok ()) before
  /-- Tokens are moved, and the source is left what it has to keep. -/
  | moved {source dest : String} {amount : Int} {keepAlive : Bool} (hamount : 0 < amount)
      (hleft : before.reserve keepAlive ≤ before.balance source - amount) :
      Settled before (.transfer source dest amount keepAlive) (.ok ())
        (before.move source dest amount)

/-- **Every call does what `Settled` says**, in every hall. -/
theorem LedgerCall.ends_settled (call : LedgerCall) (hall : Hall) :
    call.act.Ends hall fun outcome after => Settled hall.ledger call outcome after.ledger := by
  cases call with
  | deposit account amount =>
      refine .mapped (fun e _ => .refused _ e) fun ledger hledger => ?_
      rw [Ledger.deposit] at hledger
      split at hledger
      · cases hledger
      · obtain rfl := Except.ok.inj hledger
        exact .deposited (by omega)
  | transfer source dest amount keepAlive =>
      refine .mapped (fun e _ => .refused _ e) fun ledger hledger => ?_
      by_cases hzero : amount = 0
      · subst hzero
        obtain rfl := Except.ok.inj hledger
        exact .idle source dest keepAlive
      · obtain ⟨hamount, rfl⟩ := Ledger.transfer_eq_ok hzero hledger
        refine .moved (by omega) ?_
        by_contra hshort
        rw [Ledger.transfer, if_neg (by omega), if_neg hzero, if_pos (by omega)] at hledger
        cases hledger

namespace Settled

variable {before after : Ledger} {call : LedgerCall} {outcome : Except Fault Unit}

/-- All balances together change by what is deposited. -/
theorem total (h : Settled before call outcome after) :
    after.total = before.total + call.brought outcome := by
  cases h with
  | refused call e =>
      have hnothing : call.brought (.error e) = 0 := by cases call <;> rfl
      omega
  | @deposited account amount hamount =>
      have hset := before.total_setBalance account (before.balance account + amount)
      rw [LedgerCall.brought]
      omega
  | idle source dest keepAlive => exact (Int.add_zero _).symm
  | moved hamount hleft =>
      rw [before.total_move]
      exact (Int.add_zero _).symm

/-- The existential deposit is the same for ever. -/
theorem existentialDeposit (h : Settled before call outcome after) :
    after.existentialDeposit = before.existentialDeposit := by
  cases h <;> rfl

/-- **An account that has enough keeps enough**, if every transfer has to leave its source enough.
The bound can be zero, or the existential deposit where everybody has to be kept alive. -/
theorem le_balance {bound : Int} (h : Settled before call outcome after)
    (hreserve : ∀ source dest amount keepAlive, call = .transfer source dest amount keepAlive →
      bound ≤ before.reserve keepAlive)
    {account : String} (hbound : bound ≤ before.balance account) :
    bound ≤ after.balance account := by
  cases h with
  | refused call e => exact hbound
  | @deposited other amount hamount =>
      rw [Ledger.balance_setBalance]
      split
      · next heq =>
        subst heq
        omega
      · exact hbound
  | idle source dest keepAlive => exact hbound
  | @moved source dest amount keepAlive hamount hleft =>
      have hleast := hreserve source dest amount keepAlive rfl
      by_cases hsource : account = source
      · -- The source is left its reserve, and what it then gets back if it pays itself.
        subst hsource
        rw [Ledger.balance_move]
        by_cases hdest : account = dest
        · subst hdest
          rw [Function.update_self, Function.update_self]
          omega
        · rw [Function.update_of_ne hdest, Function.update_self]
          omega
      · exact Int.le_trans hbound (before.balance_le_balance_move (Int.le_of_lt hamount) hsource)

/-- A transfer leaves all accounts alone but its source and its destination. -/
theorem balance_of_ne {source dest : String} {amount : Int} {keepAlive : Bool}
    (h : Settled before (.transfer source dest amount keepAlive) outcome after) {account : String}
    (hsource : account ≠ source) (hdest : account ≠ dest) :
    after.balance account = before.balance account := by
  cases h with
  | refused _ e => rfl
  | idle _ _ _ => rfl
  | moved hamount hleft =>
      rw [Ledger.balance_move, Function.update_of_ne hdest, Function.update_of_ne hsource]

/-- Nothing comes of a transfer from an account to itself. -/
theorem balance_of_self {source : String} {amount : Int} {keepAlive : Bool}
    (h : Settled before (.transfer source source amount keepAlive) outcome after) :
    after.balance = before.balance := by
  cases h with
  | refused _ e => rfl
  | idle _ _ _ => rfl
  | moved hamount hleft =>
      rw [Ledger.balance_move]
      simp only [Function.update_self, Function.update_idem, Int.sub_add_cancel,
        Function.update_eq_self]

end Settled

/-! ### A list of calls -/

namespace Hall

/-- The first of a list of calls is made before the others. -/
theorem settle_cons (hall : Hall) (call : LedgerCall) (rest : List LedgerCall) :
    hall.settle (call :: rest) =
      ((call.act.run hall).1 :: ((call.act.run hall).2.settle rest).1,
        ((call.act.run hall).2.settle rest).2) := rfl

/-- Calls can be made in two lists, one after the other. -/
theorem settle_append (hall : Hall) (earlier later : List LedgerCall) :
    (hall.settle (earlier ++ later)).2 = ((hall.settle earlier).2.settle later).2 := by
  induction earlier generalizing hall with
  | nil => rfl
  | cons call rest ih => exact ih (call.act.run hall).2

/-- All balances together change by all that is deposited. -/
theorem total_settle (hall : Hall) (calls : List LedgerCall) :
    (hall.settle calls).2.ledger.total = hall.ledger.total +
      (List.zipWith LedgerCall.brought calls (hall.settle calls).1).sum := by
  induction calls generalizing hall with
  | nil => exact (Int.add_zero _).symm
  | cons call rest ih =>
      have hcall := (call.ends_settled hall).total
      have hrest := ih (call.act.run hall).2
      simp only [settle_cons, List.zipWith_cons_cons, List.sum_cons]
      omega

/-- The existential deposit is the same after a list of calls. -/
theorem existentialDeposit_settle (hall : Hall) (calls : List LedgerCall) :
    (hall.settle calls).2.ledger.existentialDeposit = hall.ledger.existentialDeposit := by
  induction calls generalizing hall with
  | nil => rfl
  | cons call rest ih =>
      have hcall := (call.ends_settled hall).existentialDeposit
      exact (ih (call.act.run hall).2).trans hcall

/-- **An account that has enough keeps enough** through a list of calls, if every transfer in it has
to leave its source enough. -/
theorem le_balance_settle {bound : Int} {hall : Hall} {calls : List LedgerCall}
    (hreserve : ∀ source dest amount keepAlive,
      LedgerCall.transfer source dest amount keepAlive ∈ calls →
        bound ≤ if keepAlive then hall.ledger.existentialDeposit else 0)
    {account : String} (hbound : bound ≤ hall.ledger.balance account) :
    bound ≤ (hall.settle calls).2.ledger.balance account := by
  induction calls generalizing hall with
  | nil => exact hbound
  | cons call rest ih =>
      have hcall := call.ends_settled hall
      have hnext : bound ≤ (call.act.run hall).2.ledger.balance account := by
        refine hcall.le_balance (fun source dest amount keepAlive heq => ?_) hbound
        exact hreserve source dest amount keepAlive (heq ▸ List.mem_cons_self)
      refine ih (fun source dest amount keepAlive hmem => ?_) hnext
      rw [hcall.existentialDeposit]
      exact hreserve source dest amount keepAlive (List.mem_cons_of_mem call hmem)

/-- **Tokens are neither made nor lost.** After every list of calls to the ledger of a hall, all
balances together are what they were before, and what the deposits that succeeded have brought.
Whatever is called next, a transfer changes no balance but those of its source and its destination,
and none at all if they are the same account; and a call that fails changes nothing.

Nobody comes to owe anything if nobody does in the beginning and the existential deposit is not
below zero. If all transfers have to keep their source alive, whoever at some time has the
existential deposit or more has so ever after. -/
theorem settle_conserves (hall : Hall) (calls : List LedgerCall) :
    let outcomes := (hall.settle calls).1
    let last := (hall.settle calls).2
    last.ledger.total =
      hall.ledger.total + (List.zipWith LedgerCall.brought calls outcomes).sum ∧
    (∀ source dest amount keepAlive account, account ≠ source → account ≠ dest →
      ((Act.transfer source dest amount keepAlive).run last).2.ledger.balance account =
        last.ledger.balance account) ∧
    (∀ source amount keepAlive account,
      ((Act.transfer source source amount keepAlive).run last).2.ledger.balance account =
        last.ledger.balance account) ∧
    (∀ (call : LedgerCall) fault, (call.act.run last).1 = .error fault →
      (call.act.run last).2 = last) ∧
    (0 ≤ hall.ledger.existentialDeposit → (∀ account, 0 ≤ hall.ledger.balance account) →
      ∀ account, 0 ≤ last.ledger.balance account) ∧
    ((∀ call ∈ calls, call.KeepsAlive) → ∀ earlier later, calls = earlier ++ later →
      ∀ account, hall.ledger.existentialDeposit ≤ (hall.settle earlier).2.ledger.balance account →
        hall.ledger.existentialDeposit ≤ last.ledger.balance account) := by
  intro outcomes last
  refine ⟨hall.total_settle calls, ?_, ?_, ?_, ?_, ?_⟩
  · intro source dest amount keepAlive account hsource hdest
    have hcall := (LedgerCall.transfer source dest amount keepAlive).ends_settled last
    exact hcall.balance_of_ne hsource hdest
  · intro source amount keepAlive account
    have hcall := (LedgerCall.transfer source source amount keepAlive).ends_settled last
    exact congrFun hcall.balance_of_self account
  · intro call fault hfails
    have hrun : call.act.run last = (.error fault, (call.act.run last).2) := Prod.ext hfails rfl
    cases call with
    | deposit account amount => exact Call.run_writing_error hrun
    | transfer source dest amount keepAlive => exact Call.run_writing_error hrun
  · intro hdeposit hbalances account
    refine le_balance_settle (fun source dest amount keepAlive _ => ?_) (hbalances account)
    cases keepAlive with
    | true => exact hdeposit
    | false => exact Int.le_refl 0
  · rintro halive earlier later rfl account hbound
    have hlast : last = ((hall.settle earlier).2.settle later).2 := hall.settle_append earlier later
    have hdeposit := hall.existentialDeposit_settle earlier
    rw [hlast]
    refine le_balance_settle (fun source dest amount keepAlive hmem => ?_) hbound
    have hkeeps : keepAlive = true := halive _ (List.mem_append_right earlier hmem)
    rw [hkeeps, hdeposit]
    exact Int.le_refl _

/-- A new hall in which somebody has ten tokens. -/
def tenTokens : Hall := ofSettings default { balances := Table.ofList [("payer", 10)] }

/-- A deposit of five tokens, a transfer of too many, one from an account to itself, and one of all
but the existential deposit. -/
def fourCalls : List LedgerCall :=
  [.deposit "payee" 5, .transfer "payer" "payee" 20 true, .transfer "payer" "payer" 3 true,
    .transfer "payer" "payee" 9 true]

/-- The four calls leave fifteen tokens, of which the payer keeps one. -/
theorem settle_conserves_fourCalls :
    (tenTokens.settle fourCalls).1 = [.ok (), .error (.shortFunds "payer" 20 10), .ok (), .ok ()] ∧
    0 ≤ tenTokens.ledger.existentialDeposit ∧
    (∀ account, 0 ≤ tenTokens.ledger.balance account) ∧
    (∀ call ∈ fourCalls, call.KeepsAlive) ∧
    (tenTokens.settle fourCalls).2.ledger.total = 15 ∧
    (∀ account, 0 ≤ (tenTokens.settle fourCalls).2.ledger.balance account) ∧
    1 ≤ (tenTokens.settle fourCalls).2.ledger.balance "payer" := by
  have hdeposit : 0 ≤ tenTokens.ledger.existentialDeposit := by decide
  have hbalances (account : String) : 0 ≤ tenTokens.ledger.balance account := by
    have hset := Ledger.balance_setBalance {} "payer" account 10
    change 0 ≤ (Ledger.setBalance {} "payer" 10).balance account
    rw [hset]
    split
    · decide
    · exact Int.le_refl 0
  have halive : ∀ call ∈ fourCalls, call.KeepsAlive := by
    simp [fourCalls, LedgerCall.KeepsAlive]
  obtain ⟨htotal, -, -, -, hnonneg, hkeeps⟩ := settle_conserves tenTokens fourCalls
  refine ⟨rfl, hdeposit, hbalances, halive, htotal, hnonneg hdeposit hbalances, ?_⟩
  exact hkeeps halive [] fourCalls rfl "payer" (by decide)

end Hall

end QuizHall
