import Mathlib.Logic.Function.Basic
import QuizHall.Ledger

/-!
# Conservation of Tokens

A transfer moves tokens and makes none. The sum of all balances stays what it was, and an account
that pays is the only one that has less afterwards. The sum is split here into the balance of one
account and what all the others have together, which is how the change of one balance is weighed
against the change of all the others.

## Main results

* `total_eq`: all balances are one of them and all the others.
* `total_move`: a move of tokens leaves the sum as it is.
* `balance_move`: the balances after a move.
* `transfer_eq_ok`, `transfer_eq_error`: what a transfer comes to.
-/

namespace QuizHall.Ledger

/-- What all accounts but one have together. -/
def totalBut (l : Ledger) (account : String) : Int :=
  total { l with balances := l.balances.erase account }

/-- A sum over entries with different keys, split at one of the keys. -/
private theorem foldr_eq_lookup_add {es : List (String × Int)} (h : (es.map Prod.fst).Nodup)
    (account : String) :
    es.foldr (fun e rest => e.2 + rest) 0 = (es.lookup account).getD 0 +
      (es.filter fun e => e.1 ≠ account).foldr (fun e rest => e.2 + rest) 0 := by
  induction es with
  | nil => rfl
  | cons e es ih =>
      obtain ⟨hnotMem, hnodup⟩ := List.nodup_cons.mp h
      by_cases he : e.1 = account
      · -- No other entry belongs to the account.
        have hothers : es.filter (fun e => e.1 ≠ account) = es := by
          refine List.filter_eq_self.mpr fun e' he' => decide_eq_true fun heq => hnotMem ?_
          exact List.mem_map.mpr ⟨e', he', heq.trans he.symm⟩
        rw [List.filter_cons_of_neg (by simp [he]), hothers, List.lookup_cons, he]
        simp
      · have hlookup : (e :: es).lookup account = es.lookup account := by
          rw [List.lookup_cons, beq_false_of_ne fun heq => he heq.symm]
        rw [List.filter_cons_of_pos (by simp [he]), hlookup, List.foldr_cons, List.foldr_cons,
          ih hnodup]
        omega

/-- **All balances are one of them and all the others.** -/
theorem total_eq (l : Ledger) (account : String) :
    l.total = l.balance account + l.totalBut account :=
  foldr_eq_lookup_add l.balances.distinct account

/-- What the others have does not change with the balance of an account. -/
theorem totalBut_setBalance (l : Ledger) (account : String) (n : Int) :
    (l.setBalance account n).totalBut account = l.totalBut account := by
  rw [totalBut, totalBut, setBalance, Table.erase_insert_self]

/-- The sum changes by as much as the one balance that is set. -/
theorem total_setBalance (l : Ledger) (account : String) (n : Int) :
    (l.setBalance account n).total = l.total - l.balance account + n := by
  have hbefore := l.total_eq account
  have hafter := (l.setBalance account n).total_eq account
  rw [totalBut_setBalance, balance_setBalance, if_pos rfl] at hafter
  omega

/-- **A move of tokens leaves the sum as it is**, even one from an account to itself. -/
theorem total_move (l : Ledger) (source dest : String) (amount : Int) :
    (l.move source dest amount).total = l.total := by
  rw [move, total_setBalance, total_setBalance]
  omega

/-- The balances after the balance of one account was set. -/
theorem balance_setBalance_eq_update (l : Ledger) (account : String) (n : Int) :
    (l.setBalance account n).balance = Function.update l.balance account n := by
  funext other
  rw [balance_setBalance, Function.update_apply]

/-- **The balances after a move**: first the source has less, then the destination has more. -/
theorem balance_move (l : Ledger) (source dest : String) (amount : Int) :
    (l.move source dest amount).balance =
      let paid := Function.update l.balance source (l.balance source - amount)
      Function.update paid dest (paid dest + amount) := by
  rw [move, balance_setBalance_eq_update, balance_setBalance_eq_update]

/-- Nobody but the source has less after a move. -/
theorem balance_le_balance_move (l : Ledger) {source dest other : String} {amount : Int}
    (hamount : 0 ≤ amount) (hother : other ≠ source) :
    l.balance other ≤ (l.move source dest amount).balance other := by
  rw [balance_move]
  by_cases hdest : other = dest
  · subst hdest
    rw [Function.update_self, Function.update_of_ne hother]
    omega
  · simp only [Function.update_of_ne hdest, Function.update_of_ne hother, Int.le_refl]

/-- **A transfer that succeeds** moves an amount that is not negative. -/
theorem transfer_eq_ok {l l' : Ledger} {source dest : String} {amount : Int} {keepAlive : Bool}
    (hamount : amount ≠ 0) (h : l.transfer source dest amount keepAlive = .ok l') :
    0 ≤ amount ∧ l' = l.move source dest amount := by
  rw [transfer, if_neg hamount] at h
  split at h
  · cases h
  · split at h
    · cases h
    · exact ⟨by omega, (Except.ok.inj h).symm⟩

/-- A transfer that fails says that the amount is negative, or that it is not there. -/
theorem transfer_eq_error {l : Ledger} {source dest : String} {amount : Int} {keepAlive : Bool}
    {e : Fault} (h : l.transfer source dest amount keepAlive = .error e) :
    e = .negativeTransfer ∨ e = .shortFunds source amount (l.balance source) := by
  rw [transfer] at h
  split at h
  · exact .inl (Except.error.inj h).symm
  · split at h
    · cases h
    · split at h
      · exact .inr (Except.error.inj h).symm
      · cases h

end QuizHall.Ledger
