import QuizHall.Proofs.Hall.Creation
import QuizHall.Proofs.Hall.Ending
import QuizHall.Proofs.Hall.History
import QuizHall.Proofs.Ledger

/-!
# Independent Attempts Commute

Two attempts that are signed by different accounts do not get in each other's way, even if they are
attempts at the same quiz or pay the same owner. What decides an attempt is the quiz with its key,
the rating and the balance of the account, and none of these is changed by an attempt of somebody
else. Only an owner gets tokens from others, so the accounts must not own the quizzes of each other:
tokens that arrive could pay for an attempt that could not be paid for before.

To compare the two orders, one attempt is followed in two halls at once: in the hall where it is the
first, and in the one where the other attempt has been made before. It looks at the same things in
both, so it has the same outcome and the same effect, which is to be rated, to pay and to have
its event kept. What remains is that two effects can change places: ratings are stored under
different names, payments add up, and the events are the same in another order.

Nothing is asked of the stores, and calls may be out of order, so this holds of attempts that fail
in the middle as well.

## Main definitions

* `Effect`, `Effect.Leads`: what an attempt brings about, and from which hall to which.
* `Hall.LooksAlike`: what an attempt depends on.
* `Act.EndsAlike`: an operation that is followed in two halls at once.
* `Hall.SameButOrder`: halls in which all that can be looked up is the same.

## Main results

* `Act.EndsAlike.attempt`: an attempt has the same outcome and effect in halls that look alike.
* `Effect.Leads.comm`: two effects can change places.
* `Hall.attempts_commute`: two attempts can.
-/

namespace QuizHall

variable {α β : Type}

/-! ### What an attempt brings about -/

/-- Tokens that one account pays to another. -/
structure Payment where
  /-- Who pays. -/
  payer : String
  /-- Who is paid. -/
  owner : String
  /-- How many tokens. -/
  amount : Int

/-- What a payment adds to the balance of an account. -/
def Payment.share (p : Payment) (account : String) : Int :=
  (if account = p.owner then p.amount else 0) - if account = p.payer then p.amount else 0

/-- The **effect** of an attempt: what it brings about, apart from what it writes to the log. -/
structure Effect where
  /-- The payment, if something is paid. -/
  payment : Option Payment := none
  /-- The account that is rated and its new rating, if one is stored. -/
  rating : Option (String × Int) := none
  /-- The events that are kept. -/
  events : List Event := []

/-- The ledger after a payment, if there is one. -/
def Ledger.paying (l : Ledger) : Option Payment → Ledger
  | none => l
  | some p => l.move p.payer p.owner p.amount

/-- Stores **rate** somebody, if there is somebody to rate, and do nothing else. -/
def Stores.Rates (s s' : Stores) : Option (String × Int) → Prop
  | none => s' = s
  | some (account, n) => s.saveRating account n = .ok s'

/-- An effect **leads** from one hall to another if it is all that happens between them. -/
structure Effect.Leads (e : Effect) (before after : Hall) : Prop where
  /-- The rating is stored. -/
  stores : before.stores.Rates after.stores e.rating
  /-- The payment is made. -/
  ledger : after.ledger = before.ledger.paying e.payment
  /-- The tick is the same. -/
  clock : after.clock = before.clock
  /-- The events are kept. -/
  events : after.events = before.events ++ e.events
  /-- The same calls are out of order. -/
  outages : after.outages = before.outages

/-- An effect is **due** to a caller who attempts a quiz: nobody but the caller is rated or pays,
and the owner of the quiz is paid. -/
structure Effect.DueTo (e : Effect) (rules : Rules) (ctx : CallContext) (sequence : Int)
    (s : Stores) : Prop where
  /-- The caller is rated. -/
  rating : ∀ account n, e.rating = some (account, n) → ctx.signer = some account
  /-- The caller pays the owner. -/
  payment : ∀ p, e.payment = some p → ctx.signer = some p.payer ∧
    ∃ id quiz, rules.derive sequence = .ok id ∧ s.quiz? id = .ok (some quiz) ∧ p.owner = quiz.owner

/-! ### Ledgers -/

namespace Ledger

/-- **Payments add up**: every account gets its share. -/
theorem balance_paying (l : Ledger) (payment : Option Payment) (account : String) :
    (l.paying payment).balance account =
      l.balance account + (payment.elim 0 fun p => p.share account) := by
  cases payment with
  | none => exact (Int.add_zero _).symm
  | some p =>
      have hpaid (x : String) : Function.update l.balance p.payer (l.balance p.payer - p.amount) x =
          l.balance x - if x = p.payer then p.amount else 0 := by
        rw [Function.update_apply]
        split
        · next hx => rw [hx]
        · omega
      simp only [paying, balance_move, Option.elim_some, Payment.share,
        Function.update_apply _ p.owner, hpaid]
      by_cases howner : account = p.owner
      · rw [if_pos howner, if_pos howner, howner]
        omega
      · rw [if_neg howner, if_neg howner]
        omega

theorem existentialDeposit_paying (l : Ledger) (payment : Option Payment) :
    (l.paying payment).existentialDeposit = l.existentialDeposit := by
  cases payment <;> rfl

/-- Whether an amount can be moved is seen from the balance of the source. -/
theorem transfer_alike {l₁ l₂ : Ledger} {source : String}
    (hbalance : l₂.balance source = l₁.balance source)
    (hdeposit : l₂.existentialDeposit = l₁.existentialDeposit) (dest : String) {amount : Int}
    (hamount : amount ≠ 0) (keepAlive : Bool) :
    (∃ e, l₁.transfer source dest amount keepAlive = .error e ∧
      l₂.transfer source dest amount keepAlive = .error e) ∨
    (l₁.transfer source dest amount keepAlive = .ok (l₁.move source dest amount) ∧
      l₂.transfer source dest amount keepAlive = .ok (l₂.move source dest amount)) := by
  have hreserve : l₂.reserve keepAlive = l₁.reserve keepAlive := by
    rw [reserve, reserve, hdeposit]
  simp only [transfer, if_neg hamount, hbalance, hreserve]
  split
  · exact .inl ⟨_, rfl, rfl⟩
  · split
    · exact .inl ⟨_, rfl, rfl⟩
    · exact .inr ⟨rfl, rfl⟩

end Ledger

/-! ### Ratings -/

/-- What is stored under two different keys can be stored in either order. -/
theorem Table.find?_insert_comm {κ ν : Type} [DecidableEq κ] (t : Table κ ν) {j k : κ} (h : j ≠ k)
    (v w : ν) (i : κ) :
    ((t.insert k w).insert j v).find? i = ((t.insert j v).insert k w).find? i := by
  simp only [find?_insert]
  split
  · next hi =>
    rw [if_neg fun hk => h (hi.symm.trans hk)]
  · rfl

namespace Stores

variable {s s' : Stores}

/-- Rating an account touches nothing but its rating. -/
theorem Rates.agreeOn {rating : Option (String × Int)} (h : s.Rates s' rating) {slot : Slot}
    (hne : ∀ account n, rating = some (account, n) → slot ≠ .rating account) :
    s.AgreeOn s' slot := by
  cases rating with
  | none =>
      obtain rfl : s' = s := h
      exact .refl s' slot
  | some r => exact agreeOn_saveRating h (hne r.1 r.2 rfl)

/-- **The ratings of two accounts can be stored in either order.** -/
theorem saveRating_comm {a b : String} (hne : a ≠ b) {m n : Int} {sa sab sb sba : Stores}
    (ha : s.saveRating a m = .ok sa) (hab : sa.saveRating b n = .ok sab)
    (hb : s.saveRating b n = .ok sb) (hba : sb.saveRating a m = .ok sba) (slot : Slot) :
    sab.AgreeOn sba slot := by
  cases hs : s.ratings with
  | memory ratings =>
      simp only [saveRating, hs] at ha hb
      obtain rfl := Except.ok.inj ha
      obtain rfl := Except.ok.inj hb
      simp only [saveRating] at hab hba
      obtain rfl := Except.ok.inj hab
      obtain rfl := Except.ok.inj hba
      cases slot with
      | rating account =>
          exact congrArg (fun n => Except.ok (n.getD 0))
            (Table.find?_insert_comm ratings hne m n account)
      | _ => rfl
  | redis =>
      simp only [saveRating, hs] at ha hb
      obtain ⟨-, ks, hks, rfl⟩ := writeKeys_eq_ok ha
      obtain rfl := Except.ok.inj hks
      obtain ⟨-, ks, hks, rfl⟩ := writeKeys_eq_ok hb
      obtain rfl := Except.ok.inj hks
      simp only [saveRating, hs] at hab hba
      obtain ⟨-, ks, hks, rfl⟩ := writeKeys_eq_ok hab
      obtain rfl := Except.ok.inj hks
      obtain ⟨-, ks, hks, rfl⟩ := writeKeys_eq_ok hba
      obtain rfl := Except.ok.inj hks
      have hkeys : Key.rating a ≠ Key.rating b :=
        mt (Slot.name_inj (s := .rating a) (t := .rating b)).mp (by simpa using hne)
      exact agreeOn_of_find? (Table.find?_insert_comm s.keySpace hkeys _ _ slot.name)
  | mysql table =>
      simp only [saveRating, hs, Pool.acquire] at ha hb
      split at ha
      · next hopen =>
        rw [if_pos hopen] at hb
        obtain rfl := Except.ok.inj ha
        obtain rfl := Except.ok.inj hb
        simp only [saveRating, Pool.acquire, if_pos hopen] at hab hba
        obtain rfl := Except.ok.inj hab
        obtain rfl := Except.ok.inj hba
        cases slot with
        | rating account =>
            simp only [AgreeOn, Stores.rating, Pool.acquire, if_pos hopen]
            exact congrArg (fun n => Except.ok (n.getD 0))
              (Table.find?_insert_comm table.rows hne m n account)
        | _ => rfl
      · cases ha

/-- What comes of rating somebody is settled. -/
theorem Rates.unique {s'' : Stores} {rating : Option (String × Int)} (h : s.Rates s' rating)
    (h' : s.Rates s'' rating) : s'' = s' := by
  cases rating with
  | none => exact Eq.trans h' (Eq.symm h)
  | some r => exact Except.ok.inj (Eq.trans (Eq.symm h') h)

/-- Whoever is rated first, the same is stored in the end. -/
theorem Rates.comm {ra rb : Option (String × Int)} {sa sab sb sba : Stores}
    (hne : ∀ a m b n, ra = some (a, m) → rb = some (b, n) → a ≠ b) (ha : s.Rates sa ra)
    (hab : sa.Rates sab rb) (hb : s.Rates sb rb) (hba : sb.Rates sba ra) (slot : Slot) :
    sab.AgreeOn sba slot := by
  cases ra with
  | none =>
      obtain rfl : sa = s := ha
      obtain rfl : sba = sb := hba
      obtain rfl := hab.unique hb
      exact .refl _ slot
  | some r =>
      cases rb with
      | none =>
          obtain rfl : sab = sa := hab
          obtain rfl : sb = s := hb
          obtain rfl := ha.unique hba
          exact .refl _ slot
      | some t => exact saveRating_comm (hne r.1 r.2 t.1 t.2 rfl rfl) ha hab hb hba slot

end Stores

/-- Two halls are the **same but for the order** of things if all that can be looked up in them is
the same, and the same events were published. -/
structure Hall.SameButOrder (h₁ h₂ : Hall) : Prop where
  /-- Quizzes, keys, buckets, the counter and ratings read the same. -/
  stores : ∀ slot, h₁.stores.AgreeOn h₂.stores slot
  /-- All balances are the same. -/
  balance : ∀ account, h₂.ledger.balance account = h₁.ledger.balance account
  /-- The same has to be left by a transfer. -/
  deposit : h₂.ledger.existentialDeposit = h₁.ledger.existentialDeposit
  /-- The tick is the same. -/
  clock : h₂.clock = h₁.clock
  /-- The same events were published, perhaps in another order. -/
  events : h₁.events.Perm h₂.events
  /-- The same calls are out of order. -/
  outages : h₂.outages = h₁.outages

/-- Two halls **look alike** to an account if they differ in nothing that an attempt of the account
depends on: quizzes and keys, the rating and the balance of the account, and the calls that are out
of order. -/
structure Hall.LooksAlike (account : String) (h₁ h₂ : Hall) : Prop where
  /-- The same quizzes are stored. -/
  quiz : ∀ id, h₂.stores.quiz? id = h₁.stores.quiz? id
  /-- The same keys are stored. -/
  key : ∀ id, h₂.stores.key? id = h₁.stores.key? id
  /-- The account has the same rating. -/
  rating : h₂.stores.rating account = h₁.stores.rating account
  /-- The account has the same balance. -/
  balance : h₂.ledger.balance account = h₁.ledger.balance account
  /-- The same has to be left by a transfer. -/
  deposit : h₂.ledger.existentialDeposit = h₁.ledger.existentialDeposit
  /-- The same calls are out of order. -/
  outages : h₂.outages = h₁.outages

/-! ### Two halls side by side -/

namespace Act

/-- From two halls an operation **ends alike** in a condition if it has the same outcome in both,
and the outcome meets the condition together with the halls that are left behind. -/
def EndsAlike (act : Act α) (h₁ h₂ : Hall) (q : Except Fault α → Hall → Hall → Prop) : Prop :=
  (act.run h₂).1 = (act.run h₁).1 ∧ q (act.run h₁).1 (act.run h₁).2 (act.run h₂).2

/-- What the first of two operations has to end in for both to end alike. -/
abbrev ThenAlike (next : α → Act β) (q : Except Fault β → Hall → Hall → Prop) :
    Except Fault α → Hall → Hall → Prop
  | .ok a, h₁, h₂ => (next a).EndsAlike h₁ h₂ q
  | .error e, h₁, h₂ => q (.error e) h₁ h₂

/-- What an operation has to end in for both to end alike once its faults are handled. -/
abbrev RescuedAlike (handler : Fault → Act α) (q : Except Fault α → Hall → Hall → Prop) :
    Except Fault α → Hall → Hall → Prop
  | .ok a, h₁, h₂ => q (.ok a) h₁ h₂
  | .error e, h₁, h₂ => (handler e).EndsAlike h₁ h₂ q

/-- What an attempt ends in: it has **one effect** in both halls, which is due to the caller. -/
def OneEffect (rules : Rules) (ctx : CallContext) (sequence : Int) (h₁ h₂ : Hall) :
    Except Fault Nat → Hall → Hall → Prop := fun _ after₁ after₂ =>
  ∃ e : Effect, e.DueTo rules ctx sequence h₁.stores ∧ e.Leads h₁ after₁ ∧ e.Leads h₂ after₂

namespace EndsAlike

variable {h₁ h₂ : Hall} {q : Except Fault α → Hall → Hall → Prop}

theorem answer {a : α} (h : q (.ok a) h₁ h₂) : (pure a : Act α).EndsAlike h₁ h₂ q := ⟨rfl, h⟩

theorem fail {e : Fault} (h : q (.error e) h₁ h₂) : (throw e : Act α).EndsAlike h₁ h₂ q := ⟨rfl, h⟩

/-- A condition can be weakened. -/
theorem imp {act : Act α} {q' : Except Fault α → Hall → Hall → Prop} (h : act.EndsAlike h₁ h₂ q)
    (hq : ∀ outcome after₁ after₂, q outcome after₁ after₂ → q' outcome after₁ after₂) :
    act.EndsAlike h₁ h₂ q' :=
  ⟨h.1, hq _ _ _ h.2⟩

/-- What follows an operation is given the same outcome in both halls. -/
theorem follow {act : Act α} {next : Except Fault α → Act β}
    {q : Except Fault β → Hall → Hall → Prop}
    (h : act.EndsAlike h₁ h₂ fun outcome after₁ after₂ =>
      (next outcome).EndsAlike after₁ after₂ q) : (act.follow next).EndsAlike h₁ h₂ q := by
  obtain ⟨houtcome, h⟩ := h
  rw [EndsAlike, run_follow, run_follow, houtcome]
  exact h

/-- One operation after another. -/
theorem bind {act : Act α} {next : α → Act β} {q : Except Fault β → Hall → Hall → Prop}
    (h : act.EndsAlike h₁ h₂ (ThenAlike next q)) : (act >>= next).EndsAlike h₁ h₂ q := by
  refine follow (h.imp fun outcome after₁ after₂ hnext => ?_)
  cases outcome with
  | ok a => exact hnext
  | error e => exact fail hnext

/-- An operation with somebody to handle its faults. -/
theorem rescue {act : Act α} {handler : Fault → Act α}
    (h : act.EndsAlike h₁ h₂ (RescuedAlike handler q)) :
    (act.rescue handler).EndsAlike h₁ h₂ q := by
  refine follow (h.imp fun outcome after₁ after₂ hnext => ?_)
  cases outcome with
  | ok a => exact answer hnext
  | error e => exact hnext

/-- The lock changes nothing. -/
theorem locked {act : Act α} (h : act.EndsAlike h₁ h₂ q) : act.locked.EndsAlike h₁ h₂ q := by
  rw [EndsAlike, run_locked, run_locked]
  exact h

theorem ofExcept {x : Except Fault α} (herror : ∀ e, x = .error e → q (.error e) h₁ h₂)
    (hok : ∀ a, x = .ok a → q (.ok a) h₁ h₂) : (Act.ofExcept x).EndsAlike h₁ h₂ q := by
  cases x with
  | ok a => exact answer (hok a rfl)
  | error e => exact fail (herror e rfl)

theorem ensure {p : Prop} [Decidable p] {fault : Fault} {q : Except Fault Unit → Hall → Hall → Prop}
    (herror : q (.error fault) h₁ h₂) (hok : p → q (.ok ()) h₁ h₂) :
    (Act.ensure p fault).EndsAlike h₁ h₂ q := by
  unfold Act.ensure
  split
  · next hp => exact answer (hok hp)
  · exact fail herror

theorem found {a? : Option α} {fault : Fault} (herror : q (.error fault) h₁ h₂)
    (hok : ∀ a, a? = some a → q (.ok a) h₁ h₂) : (Act.found fault a?).EndsAlike h₁ h₂ q := by
  cases a? with
  | none => exact fail herror
  | some a => exact answer (hok a rfl)

theorem note {notice : Notice} {user : String} {q : Except Fault Unit → Hall → Hall → Prop}
    (h : ∀ log₁ log₂, q (.ok ()) { h₁ with log := log₁ } { h₂ with log := log₂ }) :
    (Act.note notice user).EndsAlike h₁ h₂ q :=
  ⟨rfl, h _ _⟩

/-- A call that is in order in both halls or in neither, and does the same work. -/
theorem writing {call : Call} {f : Hall → Except Fault (α × Hall)}
    (houtages : h₂.outages = h₁.outages) (herror : ∀ e, q (.error e) h₁ h₂)
    (hf : (∃ e, f h₁ = .error e ∧ f h₂ = .error e) ∨
      ∃ a h₁' h₂', f h₁ = .ok (a, h₁') ∧ f h₂ = .ok (a, h₂') ∧ q (.ok a) h₁' h₂') :
    (call.writing f).EndsAlike h₁ h₂ q := by
  cases hout : h₁.outages.find? call with
  | some kind =>
      rw [EndsAlike, Call.run_writing_of_outage hout, Call.run_writing_of_outage (houtages ▸ hout)]
      exact ⟨rfl, herror _⟩
  | none =>
      rw [EndsAlike, Call.run_writing hout, Call.run_writing (houtages ▸ hout)]
      obtain ⟨e, he₁, he₂⟩ | ⟨a, h₁', h₂', ha₁, ha₂, hq⟩ := hf
      · rw [he₁, he₂]
        exact ⟨rfl, herror e⟩
      · rw [ha₁, ha₂]
        exact ⟨rfl, hq⟩

/-- A call whose work is first to find something out, which is the same in both halls. -/
theorem mapped {call : Call} {f : Hall → Except Fault β} {g : Hall → β → α × Hall}
    (houtages : h₂.outages = h₁.outages) (hf : f h₂ = f h₁) (herror : ∀ e, q (.error e) h₁ h₂)
    (hg : ∀ b, f h₁ = .ok b → (g h₂ b).1 = (g h₁ b).1 ∧ q (.ok (g h₁ b).1) (g h₁ b).2 (g h₂ b).2) :
    (call.writing fun hall => (f hall).map (g hall)).EndsAlike h₁ h₂ q := by
  refine writing houtages herror ?_
  rw [hf]
  cases hb : f h₁ with
  | error e => exact .inl ⟨e, rfl, rfl⟩
  | ok b =>
      obtain ⟨hanswer, hq⟩ := hg b hb
      exact .inr ⟨_, _, (g h₂ b).2, rfl, congrArg Except.ok (Prod.ext hanswer rfl), hq⟩

theorem reading {call : Call} {f : Hall → Except Fault α} (houtages : h₂.outages = h₁.outages)
    (hf : f h₂ = f h₁) (herror : ∀ e, q (.error e) h₁ h₂)
    (hok : ∀ a, f h₁ = .ok a → q (.ok a) h₁ h₂) : (call.reading f).EndsAlike h₁ h₂ q :=
  mapped houtages hf herror fun a ha => ⟨rfl, hok a ha⟩

/-- The rating of an account is looked up. -/
theorem rating {account : String} {q : Except Fault Int → Hall → Hall → Prop}
    (houtages : h₂.outages = h₁.outages) (hf : h₂.stores.rating account = h₁.stores.rating account)
    (herror : ∀ e, q (.error e) h₁ h₂)
    (hok : ∀ n statements₁ statements₂, h₁.stores.rating account = .ok n →
      q (.ok n) { h₁ with statements := statements₁ } { h₂ with statements := statements₂ }) :
    (Act.rating account).EndsAlike h₁ h₂ q := by
  refine mapped houtages hf herror fun n hn => ⟨rfl, ?_⟩
  obtain ⟨statements₁, hsend₁⟩ := h₁.exists_send (.select account)
  obtain ⟨statements₂, hsend₂⟩ := h₂.exists_send (.select account)
  rw [hsend₁, hsend₂]
  exact hok n statements₁ statements₂ hn

/-- A rating that can be read in both halls is stored in both, unless that is out of order. -/
theorem saveRating {account : String} {n prior : Int} {q : Except Fault Unit → Hall → Hall → Prop}
    (houtages : h₂.outages = h₁.outages) (hprior₁ : h₁.stores.rating account = .ok prior)
    (hprior₂ : h₂.stores.rating account = .ok prior) (herror : ∀ e, q (.error e) h₁ h₂)
    (hok : ∀ stores₁ stores₂ statements₁ statements₂,
      h₁.stores.saveRating account n = .ok stores₁ → h₂.stores.saveRating account n = .ok stores₂ →
        q (.ok ()) { h₁ with stores := stores₁, statements := statements₁ }
          { h₂ with stores := stores₂, statements := statements₂ }) :
    (Act.saveRating account n).EndsAlike h₁ h₂ q := by
  have hsaved {hall : Hall} (hprior : hall.stores.rating account = .ok prior) :
      ∃ stores statements, hall.stores.saveRating account n = .ok stores ∧
        (hall.stores.saveRating account n).map (fun stores =>
          ((), Hall.send { hall with stores } (.upsert account n))) =
            .ok ((), { hall with stores, statements }) := by
    obtain ⟨stores, hsave⟩ := Stores.exists_saveRating hprior n
    obtain ⟨statements, hsend⟩ := Hall.exists_send { hall with stores } (.upsert account n)
    refine ⟨stores, statements, hsave, ?_⟩
    rw [hsave]
    exact congrArg (fun after => Except.ok ((), after)) hsend
  obtain ⟨stores₁, statements₁, hsave₁, hwork₁⟩ := hsaved hprior₁
  obtain ⟨stores₂, statements₂, hsave₂, hwork₂⟩ := hsaved hprior₂
  exact writing houtages herror (.inr ⟨(), _, _, hwork₁, hwork₂,
    hok stores₁ stores₂ statements₁ statements₂ hsave₁ hsave₂⟩)

/-- The same event is published, and kept in both halls or in neither. -/
theorem publish {rules : Rules} {event : Event} {q : Except Fault Unit → Hall → Hall → Prop}
    (houtages : h₂.outages = h₁.outages)
    (h : ∀ events log₁ log₂, q (.ok ())
      { h₁ with events := h₁.events ++ events, log := log₁ }
      { h₂ with events := h₂.events ++ events, log := log₂ }) :
    (Act.publish rules event).EndsAlike h₁ h₂ q := by
  have hnone := h []
  simp only [List.append_nil] at hnone
  refine rescue (writing houtages (fun e => ?_) (.inr ⟨(), _, _, rfl, rfl, ?_⟩))
  · exact note fun log₁ log₂ => hnone log₁ log₂
  · cases rules.keepsEvents with
    | true => exact h [event] _ _
    | false => exact hnone h₁.log h₂.log

/-! ### The steps of an attempt -/

/-- **A payment** is seen in the balance of the payer alone. -/
theorem pay {payer owner : String} {amount : Int} {q : Except Fault Unit → Hall → Hall → Prop}
    (houtages : h₂.outages = h₁.outages)
    (hbalance : h₂.ledger.balance payer = h₁.ledger.balance payer)
    (hdeposit : h₂.ledger.existentialDeposit = h₁.ledger.existentialDeposit)
    (herror : ∀ e, q (.error e) h₁ h₂)
    (hok : ∀ payment log₁ log₂, (∀ p, payment = some p → p = ⟨payer, owner, amount⟩) →
      q (.ok ()) { h₁ with ledger := h₁.ledger.paying payment, log := log₁ }
        { h₂ with ledger := h₂.ledger.paying payment, log := log₂ }) :
    (Act.pay payer owner amount).EndsAlike h₁ h₂ q := by
  rw [Act.pay]
  by_cases hzero : amount = 0
  · rw [if_pos hzero]
    exact answer (hok none h₁.log h₂.log (by simp))
  rw [if_neg hzero]
  refine bind (reading houtages (congrArg Except.ok hbalance) herror fun free _ => ?_)
  refine bind (ensure (herror _) fun _ => ?_)
  refine rescue (writing houtages (fun e => fail (herror _)) ?_)
  obtain ⟨e, he₁, he₂⟩ | ⟨hmove₁, hmove₂⟩ :=
    Ledger.transfer_alike hbalance hdeposit owner hzero true
  · rw [he₁, he₂]
    exact .inl ⟨e, rfl, rfl⟩
  · rw [hmove₁, hmove₂]
    exact .inr ⟨(), _, _, rfl, rfl, hok (some ⟨payer, owner, amount⟩) _ _ (by simp)⟩

/-- **The rating of an account is blended** with a score that counts. -/
theorem updateRating {account : String} {score prior : Int}
    {q : Except Fault Int → Hall → Hall → Prop} (houtages : h₂.outages = h₁.outages)
    (hprior₁ : h₁.stores.rating account = .ok prior)
    (hprior₂ : h₂.stores.rating account = .ok prior) (herror : ∀ e, q (.error e) h₁ h₂)
    (hok : ∀ n stores₁ stores₂ log₁ log₂ statements₁ statements₂,
      h₁.stores.saveRating account n = .ok stores₁ → h₂.stores.saveRating account n = .ok stores₂ →
        q (.ok n) { h₁ with stores := stores₁, log := log₁, statements := statements₁ }
          { h₂ with stores := stores₂, log := log₂, statements := statements₂ }) :
    (Act.updateRating account score (some prior)).EndsAlike h₁ h₂ q := by
  refine bind (ofExcept (fun e _ => herror e) fun _ _ => ?_)
  refine bind (answer (bind (saveRating houtages hprior₁ hprior₂ herror
    fun stores₁ stores₂ statements₁ statements₂ hsave₁ hsave₂ => ?_)))
  exact bind (note fun log₁ log₂ =>
    answer (hok _ stores₁ stores₂ log₁ log₂ statements₁ statements₂ hsave₁ hsave₂))

/-- Nothing but a payment has been made, if that. -/
theorem oneEffect_paying {rules : Rules} {ctx : CallContext} {sequence : Int} {e : Fault}
    {log₁ log₂ : List LogRecord} {statements₁ statements₂ : List Statement}
    (payment : Option Payment) (hdue : ∀ p, payment = some p → ctx.signer = some p.payer ∧
      ∃ id quiz, rules.derive sequence = .ok id ∧ h₁.stores.quiz? id = .ok (some quiz) ∧
        p.owner = quiz.owner) :
    OneEffect rules ctx sequence h₁ h₂ (.error e)
      { h₁ with ledger := h₁.ledger.paying payment, log := log₁, statements := statements₁ }
      { h₂ with ledger := h₂.ledger.paying payment, log := log₂, statements := statements₂ } :=
  ⟨{ payment }, ⟨by simp, hdue⟩, ⟨rfl, rfl, rfl, (List.append_nil _).symm, rfl⟩,
    ⟨rfl, rfl, rfl, (List.append_nil _).symm, rfl⟩⟩

/-- **An attempt goes the same way** in halls that look alike to the account. -/
theorem attemptBy {rules : Rules} {ctx : CallContext} {sender : String} {sequence : Int}
    {submission : Answers} (hsender : ctx.signer = some sender) (h : h₁.LooksAlike sender h₂) :
    (Act.attemptBy rules sender sequence submission).EndsAlike h₁ h₂
      (OneEffect rules ctx sequence h₁ h₂) := by
  -- Nothing has been done until the payment but looking things up.
  have hnothing (e : Fault) (statements₁ statements₂ : List Statement) :
      OneEffect rules ctx sequence h₁ h₂ (.error e) { h₁ with statements := statements₁ }
        { h₂ with statements := statements₂ } :=
    oneEffect_paying none (by simp)
  have hearly (e : Fault) : OneEffect rules ctx sequence h₁ h₂ (.error e) h₁ h₂ :=
    hnothing e h₁.statements h₂.statements
  refine bind (ofExcept (fun e _ => hearly e) fun id hid => ?_)
  refine bind (reading h.outages (h.quiz id) hearly fun quiz? hquiz => ?_)
  refine bind (found (hearly _) fun quiz hfound => ?_)
  refine bind (ensure (hearly _) fun _ => ?_)
  refine bind (rating h.outages h.rating hearly fun prior statements₁ statements₂ hprior => ?_)
  refine bind (ensure (hnothing _ statements₁ statements₂) fun _ => ?_)
  refine bind (reading h.outages (h.key id) (fun e => hnothing e statements₁ statements₂)
    fun key? _ => ?_)
  refine bind (found (hnothing _ statements₁ statements₂) fun key _ => ?_)
  refine bind (pay h.outages h.balance h.deposit (fun e => hnothing e statements₁ statements₂)
    fun payment log₁ log₂ hpayment => ?_)
  have hdue (p : Payment) (hp : payment = some p) : ctx.signer = some p.payer ∧
      ∃ id quiz, rules.derive sequence = .ok id ∧ h₁.stores.quiz? id = .ok (some quiz) ∧
        p.owner = quiz.owner := by
    obtain rfl := hpayment p hp
    exact ⟨hsender, id, quiz, hid, hfound ▸ hquiz, rfl⟩
  -- From now on the payment stays, whether the rating can be stored or not.
  refine bind (updateRating h.outages hprior (h.rating.trans hprior) (fun e => ?_)
    fun n stores₁ stores₂ log₁ log₂ statements₁ statements₂ hsave₁ hsave₂ => ?_)
  · exact oneEffect_paying payment hdue
  · refine bind (note fun _ _ => bind (publish h.outages fun events log₁ log₂ => answer ?_))
    refine ⟨{ payment, rating := some (sender, n), events }, ⟨?_, hdue⟩,
      ⟨hsave₁, rfl, rfl, rfl, rfl⟩, ⟨hsave₂, rfl, rfl, rfl, rfl⟩⟩
    intro account m hrating
    obtain ⟨rfl, rfl⟩ := Prod.mk.inj (Option.some.inj hrating)
    exact hsender

/-- **An attempt of a caller goes the same way** in halls that look alike to the caller. -/
theorem attempt {rules : Rules} {ctx : CallContext} {sequence : Int} {submission : Answers}
    (h : ∀ account, ctx.signer = some account → h₁.LooksAlike account h₂) :
    (Act.attempt rules ctx sequence submission).EndsAlike h₁ h₂
      (OneEffect rules ctx sequence h₁ h₂) := by
  refine bind (ofExcept (fun e _ => ?_) fun sender hsender => ?_)
  · exact oneEffect_paying none (by simp)
  · have hsigner := (CallContext.sender_eq_ok_iff.mp hsender).1
    exact locked (attemptBy hsigner (h sender hsigner))

end EndsAlike

end Act

namespace Effect.Leads

variable {hall h₁ h₂ h₁₂ h₂₁ : Hall} {e₁ e₂ : Effect}

/-- What one caller does is not seen by another account, unless it is paid. -/
theorem looksAlike {e : Effect} {after : Hall} {rules : Rules} {ctx : CallContext} {sequence : Int}
    {account : String} (h : e.Leads hall after) (hdue : e.DueTo rules ctx sequence hall.stores)
    (hsigner : ctx.signer ≠ some account)
    (howner : ∀ id quiz, rules.derive sequence = .ok id → hall.stores.quiz? id = .ok (some quiz) →
      account ≠ quiz.owner) : hall.LooksAlike account after := by
  have hframe (slot : Slot) (hslot : ∀ other, slot = .rating other → other = account) :
      hall.stores.AgreeOn after.stores slot := by
    refine h.stores.agreeOn fun other n hrating hother => ?_
    obtain rfl := hslot other hother
    exact hsigner (hdue.rating other n hrating)
  have hshare (p : Payment) (hp : e.payment = some p) : p.share account = 0 := by
    obtain ⟨hpayer, id, quiz, hid, hquiz, hpaid⟩ := hdue.payment p hp
    have hne : account ≠ p.payer := by
      rintro rfl
      exact hsigner hpayer
    rw [Payment.share, if_neg (hpaid ▸ howner id quiz hid hquiz), if_neg hne]
    rfl
  refine ⟨fun id => hframe (.quiz id) (by simp), fun id => hframe (.solution id) (by simp),
    hframe (.rating account) (by simp), ?_, ?_, h.outages⟩
  · rw [h.ledger, Ledger.balance_paying]
    cases hp : e.payment with
    | none => exact Int.add_zero _
    | some p =>
        rw [Option.elim_some, hshare p hp]
        exact Int.add_zero _
  · rw [h.ledger, Ledger.existentialDeposit_paying]

/-- **Two effects can change places** if they do not rate the same account. -/
theorem comm (hne : ∀ a m b n, e₁.rating = some (a, m) → e₂.rating = some (b, n) → a ≠ b)
    (h : e₁.Leads hall h₁) (h' : e₂.Leads h₁ h₁₂) (hswap : e₂.Leads hall h₂)
    (hswap' : e₁.Leads h₂ h₂₁) : h₁₂.SameButOrder h₂₁ := by
  refine ⟨Stores.Rates.comm hne h.stores h'.stores hswap.stores hswap'.stores, fun account => ?_,
    ?_, ?_, ?_, ?_⟩
  · rw [h'.ledger, h.ledger, hswap'.ledger, hswap.ledger]
    simp only [Ledger.balance_paying]
    omega
  · rw [h'.ledger, h.ledger, hswap'.ledger, hswap.ledger]
    simp only [Ledger.existentialDeposit_paying]
  · rw [h'.clock, h.clock, hswap'.clock, hswap.clock]
  · rw [h'.events, h.events, hswap'.events, hswap.events, List.append_assoc, List.append_assoc]
    exact List.perm_append_comm.append_left hall.events
  · rw [h'.outages, h.outages, hswap'.outages, hswap.outages]

end Effect.Leads

namespace Hall

/-- A hall looks to itself as it does. -/
theorem LooksAlike.refl (account : String) (hall : Hall) : hall.LooksAlike account hall :=
  ⟨fun _ => rfl, fun _ => rfl, rfl, rfl, rfl, rfl⟩

/-- An attempt of somebody else is not seen by an account that is not paid for it. -/
theorem looksAlike_attempt {rules : Rules} {hall : Hall} {ctx : CallContext} {sequence : Int}
    (submission : Answers) {account : String} (hsigner : ctx.signer ≠ some account)
    (howner : ∀ id quiz, rules.derive sequence = .ok id → hall.stores.quiz? id = .ok (some quiz) →
      account ≠ quiz.owner) :
    hall.LooksAlike account ((Act.attempt rules ctx sequence submission).run hall).2 := by
  have h : (Act.attempt rules ctx sequence submission).EndsAlike hall hall
      (Act.OneEffect rules ctx sequence hall hall) := .attempt fun _ _ => .refl _ hall
  obtain ⟨-, e, hdue, hleads, -⟩ := h
  exact hleads.looksAlike hdue hsigner howner

/-- **Independent attempts commute.** Let two attempts be signed by different accounts, neither of
which owns the quiz that the other one attempts. In whatever state the hall is, it does not matter
for the outcome of either which one is made first, and the halls that come of both orders hold the
same quizzes, keys, buckets, counter, ratings and balances. -/
theorem attempts_commute (rules : Rules) (hall : Hall) (ctx₁ ctx₂ : CallContext)
    (sequence₁ sequence₂ : Int) (submission₁ submission₂ : Answers)
    (hsigners : ctx₁.signer ≠ ctx₂.signer)
    (howner₁ : ∀ id quiz, rules.derive sequence₁ = .ok id →
      hall.stores.quiz? id = .ok (some quiz) → ctx₂.signer ≠ some quiz.owner)
    (howner₂ : ∀ id quiz, rules.derive sequence₂ = .ok id →
      hall.stores.quiz? id = .ok (some quiz) → ctx₁.signer ≠ some quiz.owner) :
    let first := Act.attempt rules ctx₁ sequence₁ submission₁
    let second := Act.attempt rules ctx₂ sequence₂ submission₂
    (first.run (second.run hall).2).1 = (first.run hall).1 ∧
      (second.run (first.run hall).2).1 = (second.run hall).1 ∧
        (second.run (first.run hall).2).2.SameButOrder (first.run (second.run hall).2).2 := by
  intro first second
  have hfirst : first.EndsAlike hall (second.run hall).2
      (Act.OneEffect rules ctx₁ sequence₁ hall (second.run hall).2) := by
    refine .attempt fun account hsigner => looksAlike_attempt submission₂ ?_ ?_
    · exact fun h => hsigners (hsigner.trans h.symm)
    · rintro id quiz hid hquiz rfl
      exact howner₂ id quiz hid hquiz hsigner
  have hsecond : second.EndsAlike hall (first.run hall).2
      (Act.OneEffect rules ctx₂ sequence₂ hall (first.run hall).2) := by
    refine .attempt fun account hsigner => looksAlike_attempt submission₁ ?_ ?_
    · exact fun h => hsigners (h.trans hsigner.symm)
    · rintro id quiz hid hquiz rfl
      exact howner₁ id quiz hid hquiz hsigner
  obtain ⟨houtcome₁, e₁, hdue₁, hleads₁, hleads₁'⟩ := hfirst
  obtain ⟨houtcome₂, e₂, hdue₂, hleads₂, hleads₂'⟩ := hsecond
  refine ⟨houtcome₁, houtcome₂, hleads₁.comm ?_ hleads₂' hleads₂ hleads₁'⟩
  rintro a m b n ha hb rfl
  exact hsigners ((hdue₁.rating a m ha).trans (hdue₂.rating a n hb).symm)

/-- A hall with two quizzes of one owner, in which a guest has a hundred tokens and a visitor has
fifteen. -/
def withTwoQuizzes : Hall :=
  (serve (Rules.ofSettings default asCharacters true)
    (ofSettings default { balances := Table.ofList [("guest", 100), ("visitor", 15)] })
    [openQuiz, openQuiz]).2

/-- Answers of which the last one is wrong. -/
def lastWrong : Answers := { firstOptions with answer5 := Fin.last 255 }

/-- Answers of which the last two are wrong. -/
def lastTwoWrong : Answers := { lastWrong with answer4 := Fin.last 255 }

/-- The guest attempts the first quiz. -/
def guestAtFirstQuiz : Act Nat :=
  Act.attempt (Rules.ofSettings default asCharacters true) ⟨some "guest"⟩ 1 lastWrong

/-- The visitor attempts the second quiz. -/
def visitorAtSecondQuiz (submission : Answers) : Act Nat :=
  Act.attempt (Rules.ofSettings default asCharacters true) ⟨some "visitor"⟩ 2 submission

/-- The visitor can pay for one wrong answer and not for two, also after the guest has paid the same
owner. Whatever the visitor submits, it does not matter who comes first. -/
theorem attempts_commute_guest_and_visitor :
    (guestAtFirstQuiz.run withTwoQuizzes).1 = .ok 4 ∧
    ((visitorAtSecondQuiz lastWrong).run (guestAtFirstQuiz.run withTwoQuizzes).2).1 = .ok 4 ∧
    ((visitorAtSecondQuiz lastTwoWrong).run (guestAtFirstQuiz.run withTwoQuizzes).2).1 =
      .error (.shortBalance "visitor" 15 20) ∧
    ∀ submission,
      ((visitorAtSecondQuiz submission).run
        (guestAtFirstQuiz.run withTwoQuizzes).2).2.SameButOrder
          (guestAtFirstQuiz.run ((visitorAtSecondQuiz submission).run withTwoQuizzes).2).2 := by
  have howner₁ (id : String) (quiz : Quiz)
      (hid : (Rules.ofSettings default asCharacters true).derive 1 = .ok id)
      (hquiz : withTwoQuizzes.stores.quiz? id = .ok (some quiz)) :
      (some "visitor" : Option String) ≠ some quiz.owner := by
    obtain rfl := Except.ok.inj hid
    obtain rfl := Option.some.inj (Except.ok.inj hquiz)
    decide
  have howner₂ (id : String) (quiz : Quiz)
      (hid : (Rules.ofSettings default asCharacters true).derive 2 = .ok id)
      (hquiz : withTwoQuizzes.stores.quiz? id = .ok (some quiz)) :
      (some "guest" : Option String) ≠ some quiz.owner := by
    obtain rfl := Except.ok.inj hid
    obtain rfl := Option.some.inj (Except.ok.inj hquiz)
    decide
  have h (submission : Answers) := attempts_commute (Rules.ofSettings default asCharacters true)
    withTwoQuizzes ⟨some "guest"⟩ ⟨some "visitor"⟩ 1 2 lastWrong submission (by decide) howner₁
    howner₂
  refine ⟨rfl, ?_, ?_, fun submission => (h submission).2.2⟩
  · exact (h lastWrong).2.1
  · exact (h lastTwoWrong).2.1

end Hall

end QuizHall
