import QuizHall.Fault
import QuizHall.Table

/-!
# The ledger

Balances of accounts. A transfer that keeps the source alive leaves it at least the existential
deposit; any other transfer may empty the source but not overdraw it. An account that was never
seen has the balance zero.

## Main definitions

* `Ledger`: the balances and the existential deposit.
* `Ledger.balance`, `Ledger.deposit`, `Ledger.transfer`.
* `Ledger.total`: the sum of all balances.
-/

namespace QuizHall

/-- The balances of all accounts that were ever paid. -/
structure Ledger where
  /-- The balance of each account that is listed. -/
  balances : Table String Int := Table.empty
  /-- What a transfer that keeps the source alive has to leave. -/
  existentialDeposit : Int := 1

namespace Ledger

/-- The balance of an account. -/
def balance (l : Ledger) (account : String) : Int := (l.balances.find? account).getD 0

/-- The ledger with another balance for one account. -/
def setBalance (l : Ledger) (account : String) (amount : Int) : Ledger :=
  { l with balances := l.balances.insert account amount }

/-- Adds tokens to an account. -/
def deposit (l : Ledger) (account : String) (amount : Int) : Except Fault Ledger :=
  if amount < 0 then .error .negativeDeposit
  else .ok (l.setBalance account (l.balance account + amount))

/-- What a transfer has to leave to its source. -/
def reserve (l : Ledger) (keepAlive : Bool) : Int := if keepAlive then l.existentialDeposit else 0

/-- The ledger after tokens left one account and arrived at another. -/
def move (l : Ledger) (source dest : String) (amount : Int) : Ledger :=
  let paid := l.setBalance source (l.balance source - amount)
  paid.setBalance dest (paid.balance dest + amount)

/-- Moves tokens from one account to another. Nothing is moved by a transfer of zero, whatever
the source has. -/
def transfer (l : Ledger) (source dest : String) (amount : Int) (keepAlive : Bool) :
    Except Fault Ledger :=
  if amount < 0 then .error .negativeTransfer
  else if amount = 0 then .ok l
  else if l.balance source - amount < l.reserve keepAlive then
    .error (.shortFunds source amount (l.balance source))
  else .ok (l.move source dest amount)

/-- The sum of all balances. -/
def total (l : Ledger) : Int := l.balances.entries.foldr (fun e rest => e.2 + rest) 0

/-! ### Reading after a change -/

theorem balance_setBalance (l : Ledger) (a b : String) (n : Int) :
    (l.setBalance a n).balance b = if b = a then n else l.balance b := by
  unfold balance setBalance
  rw [Table.find?_insert]
  split <;> rfl

end Ledger

end QuizHall
