import QuizHall.Proofs.Hall.Chronicle
import QuizHall.Proofs.Ledger

/-!
# The Events Account for Everything

Whoever sees nothing of a hall but its events can keep books. A creation tells who owns the quiz of
a number. A scored attempt tells how many answers were wrong, so it tells what the account paid to
the owner, and how its rating has changed. The books say at any time just what everybody has and how
everybody is rated, since nothing else moves tokens or changes ratings, and whatever does so is
published with the account, the number and the score that it was done with.

The numbers can be followed too. Creations are published under the numbers one, two, and so on up to
the number of the latest quiz, and nobody is scored on a quiz whose creation was not published
before.

## Main definitions

* `Books`, `Books.replay`: what is written down, and the books after a list of events.
* `Accounted`: the books agree with a view.

## Main results

* `Accounted.served`: every request keeps the books in agreement.
* `Hall.events_account`: after every run the books are right.
-/

namespace QuizHall

/-! ### Books -/

/-- What an observer of the events writes down. -/
structure Books where
  /-- Who created the quiz of a number. -/
  owner : Int → Option String
  /-- What an account has. -/
  balance : String → Int
  /-- How an account is rated; zero if it was never scored. -/
  rating : String → Int

namespace Books

/-- The books before the first event, with the balances of that time. -/
def opening (balance : String → Int) : Books := ⟨fun _ => none, balance, fun _ => 0⟩

/-- Tokens move from one account to another. -/
def move (b : Books) (source dest : String) (amount : Int) : Books :=
  let paid := Function.update b.balance source (b.balance source - amount)
  { b with balance := Function.update paid dest (paid dest + amount) }

/-- The rating of an account changes by a score. -/
def rate (b : Books) (account : String) (score : Int) : Books :=
  let prior := b.rating account
  { b with
    rating := Function.update b.rating account
      (if prior = 0 then score else (5 * prior + score) / 6) }

/-- Enters an event into the books, where a wrong answer costs a number of tokens. -/
def enter (tokens : Int) (b : Books) : Event → Books
  | .created sequence account _ =>
    { b with owner := Function.update b.owner sequence (some account) }
  | .scored sequence account score =>
    match b.owner sequence with
    | some owner => (b.move account owner ((5 - score) * tokens)).rate account score
    | none => b.rate account score
  | .deleted _ => b

/-- The books after a list of events. -/
def replay (tokens : Int) (b : Books) (events : List Event) : Books := events.foldl (enter tokens) b

variable {tokens : Int} {b : Books} {events : List Event}

theorem replay_append (more : List Event) :
    b.replay tokens (events ++ more) = (b.replay tokens events).replay tokens more :=
  List.foldl_append ..

/-- Deletions are not entered. -/
theorem replay_deleted (ticks : List Int) : b.replay tokens (ticks.map .deleted) = b := by
  induction ticks with
  | nil => rfl
  | cons tick ticks ih => exact ih

theorem owner_enter_created (sequence : Int) (account : String) (gate : Int) :
    (b.enter tokens (.created sequence account gate)).owner =
      Function.update b.owner sequence (some account) := rfl

/-- A score says nothing about owners. -/
theorem owner_enter_scored (sequence : Int) (account : String) (score : Int) :
    (b.enter tokens (.scored sequence account score)).owner = b.owner := by
  rw [enter]
  split <;> rfl

/-- A score moves tokens to the owner of the quiz, and is blended into the rating. -/
theorem enter_scored {sequence : Int} {owner : String} (howner : b.owner sequence = some owner)
    (account : String) (score : Int) :
    b.enter tokens (.scored sequence account score) =
      (b.move account owner ((5 - score) * tokens)).rate account score := by
  rw [enter, howner]

/-- Who is in the books as the owner of a quiz was there before or was published as its creator. -/
theorem owner_replay {sequence : Int} {owner : String}
    (h : (b.replay tokens events).owner sequence = some owner) :
    b.owner sequence = some owner ∨ ∃ gate, .created sequence owner gate ∈ events := by
  induction events generalizing b with
  | nil => exact .inl h
  | cons event events ih =>
      rcases ih h with hbefore | ⟨gate, hmem⟩
      · cases event with
        | created sequence' account gate =>
            rw [owner_enter_created] at hbefore
            by_cases hsequence : sequence = sequence'
            · subst hsequence
              rw [Function.update_self] at hbefore
              obtain rfl := Option.some.inj hbefore
              exact .inr ⟨gate, List.mem_cons_self⟩
            · rw [Function.update_of_ne hsequence] at hbefore
              exact .inl hbefore
        | scored sequence' account score =>
            rw [owner_enter_scored] at hbefore
            exact .inl hbefore
        | deleted tick => exact .inl hbefore
      · exact .inr ⟨gate, List.mem_cons_of_mem event hmem⟩

end Books

/-- The balances after a payment are those in the books, whether tokens were moved or not. -/
theorem Paid.balance {before after : Ledger} {payer owner : String} {amount : Int}
    (h : Paid before payer owner amount after) {b : Books} (hb : before.balance = b.balance) :
    after.balance = (b.move payer owner amount).balance := by
  cases h with
  | nothing hzero =>
      rw [Books.move, hzero, ← hb]
      simp only [Int.sub_zero, Int.add_zero, Function.update_eq_self]
  | moved hne hfree htransfer =>
      obtain ⟨-, rfl⟩ := Ledger.transfer_eq_ok hne htransfer
      rw [Ledger.balance_move, hb]
      rfl

/-! ### The order of events -/

/-- The number under which an event publishes a creation. -/
def Event.createdSequence? : Event → Option Int
  | .created sequence _ _ => some sequence
  | _ => none

/-- The numbers of a list of creations, in their order. -/
def firstNumbers (n : Nat) : List Int := (List.range n).map fun i : Nat => (i : Int) + 1

theorem firstNumbers_succ (n : Nat) : firstNumbers (n + 1) = firstNumbers n ++ [(n : Int) + 1] := by
  rw [firstNumbers, List.range_succ, List.map_append]
  rfl

/-- Nobody is scored on a quiz unless its creation was published before. -/
def ScoredAfterCreated (events : List Event) : Prop :=
  ∀ earlier sequence account score later,
    events = earlier ++ .scored sequence account score :: later →
      ∃ owner gate, .created sequence owner gate ∈ earlier

/-- Further scores have to be about quizzes whose creation was published. -/
theorem ScoredAfterCreated.append {events more : List Event} (h : ScoredAfterCreated events)
    (hmore : ∀ sequence account score, .scored sequence account score ∈ more →
      ∃ owner gate, .created sequence owner gate ∈ events) :
    ScoredAfterCreated (events ++ more) := by
  intro earlier sequence account score later hsplit
  obtain ⟨between, rfl, hmid⟩ | ⟨between, hevents, hmid⟩ := List.append_eq_append_iff.mp hsplit
  · -- The score is among the further events.
    obtain ⟨owner, gate, hmem⟩ := hmore sequence account score (by rw [hmid]; simp)
    exact ⟨owner, gate, List.mem_append_left between hmem⟩
  · cases between with
    | nil =>
        obtain ⟨owner, gate, hmem⟩ := hmore sequence account score (by
          rw [List.nil_append] at hmid
          rw [← hmid]
          exact List.mem_cons_self)
        rw [List.append_nil] at hevents
        exact ⟨owner, gate, hevents ▸ hmem⟩
    | cons event between =>
        -- The score was there before.
        obtain ⟨rfl, -⟩ := List.cons.inj hmid
        exact h earlier sequence account score between hevents

/-! ### Books that agree with a view -/

/-- The books of somebody who has seen the events of a view, and knew the ledger before them. -/
def View.books (rules : Rules) (start : Ledger) (v : View) : Books :=
  (Books.opening start.balance).replay rules.tokensPerQuestion v.events

/-- One more event is entered into the books. -/
theorem View.books_of_append {rules : Rules} {start : Ledger} {v v' : View} {event : Event}
    (h : v'.events = v.events ++ [event]) :
    v'.books rules start = (v.books rules start).enter rules.tokensPerQuestion event := by
  rw [View.books, h, Books.replay_append]
  rfl

/-- **The books agree with a view**, and the events came in order. -/
structure Accounted (rules : Rules) (start : Ledger) (v : View) : Prop where
  /-- Everybody has what the books say. -/
  balance : v.ledger.balance = (v.books rules start).balance
  /-- Everybody is rated as the books say. -/
  rating : v.contents.rating = (v.books rules start).rating
  /-- A quiz that is stored has a number, and belongs to whom the books say. -/
  owner : ∀ id quiz, v.contents.quizzes.find? id = some quiz →
    ∃ sequence, 1 ≤ sequence ∧ sequence ≤ v.contents.counter ∧ rules.idOf sequence = id ∧
      (v.books rules start).owner sequence = some quiz.owner
  /-- The creations were published under the first numbers, in their order. -/
  numbers : v.events.filterMap Event.createdSequence? = firstNumbers v.contents.counter.toNat
  /-- Nobody was scored on a quiz that was not published. -/
  order : ScoredAfterCreated v.events

namespace Accounted

variable {rules : Rules} {start : Ledger} {v v' : View}

/-- Before the first event the books are right. -/
theorem opening (rules : Rules) (start : Ledger) (clock : Int) :
    Accounted rules start { contents := {}, ledger := start, clock } := by
  refine ⟨rfl, rfl, fun id quiz hquiz => ?_, rfl, fun earlier _ _ _ _ hsplit => ?_⟩
  · cases hquiz
  · exact absurd hsplit (by simp)

/-- **What only loses quizzes keeps the books right.** -/
theorem loses (h : Accounted rules start v) (hloses : v.Loses v') : Accounted rules start v' := by
  obtain ⟨ticks, hevents⟩ := hloses.events
  have hbooks : v'.books rules start = v.books rules start := by
    rw [View.books, hevents, Books.replay_append, Books.replay_deleted]
    rfl
  constructor
  case balance =>
    rw [hbooks, hloses.ledger]
    exact h.balance
  case rating =>
    rw [hbooks, ← h.rating]
    funext account
    rw [Contents.rating, hloses.ratings]
    rfl
  case owner =>
    intro id quiz hquiz
    rw [hbooks, hloses.counter]
    exact h.owner id quiz (hloses.quizzes id quiz hquiz)
  case numbers =>
    have hnone : (ticks.map Event.deleted).filterMap Event.createdSequence? = [] := by
      simp [Event.createdSequence?]
    rw [hevents, List.filterMap_append, hnone, List.append_nil, hloses.counter]
    exact h.numbers
  case order =>
    rw [hevents]
    exact h.order.append fun sequence account score hmem => by simp at hmem

/-- **A creation keeps the books right.** It is published under the number that comes next. -/
theorem entered (h : Accounted rules start v) (hkeeps : rules.keepsEvents = true)
    (hrange : v.contents.InRange) {quiz : Quiz} {key : Answers} {outcome : Except Fault Int}
    (hentered : Entered rules quiz key v outcome v') : Accounted rules start v' := by
  cases hentered with
  | refused e log => exact ⟨h.balance, h.rating, h.owner, h.numbers, h.order⟩
  | @done id bucket hid hquiz hkey hdue log =>
      obtain ⟨-, rfl⟩ := Rules.derive_eq_ok_iff.mp hid
      have hcounter := hrange.counter_nonneg
      simp only [Rules.kept_eq hkeeps]
      constructor
      case balance =>
        rw [View.books_of_append rfl]
        exact h.balance
      case rating =>
        rw [View.books_of_append rfl]
        exact h.rating
      case owner =>
        intro id' quiz' hfind
        rw [View.books_of_append rfl, Books.owner_enter_created]
        change (v.contents.quizzes.insert _ quiz).find? id' = some quiz' at hfind
        change ∃ sequence, 1 ≤ sequence ∧ sequence ≤ v.contents.counter + 1 ∧ _
        rw [Table.find?_insert] at hfind
        split at hfind
        · next heq =>
          obtain rfl := Option.some.inj hfind
          exact ⟨_, by omega, by omega, heq.symm, Function.update_self ..⟩
        · obtain ⟨sequence, hmin, hmax, hid', howner⟩ := h.owner id' quiz' hfind
          refine ⟨sequence, hmin, by omega, hid', ?_⟩
          rw [Function.update_of_ne (by omega)]
          exact howner
      case numbers =>
        change _ = firstNumbers (v.contents.counter + 1).toNat
        have hnext : (v.contents.counter + 1).toNat = v.contents.counter.toNat + 1 := by omega
        have hcast : (v.contents.counter.toNat : Int) = v.contents.counter := by omega
        rw [List.filterMap_append, h.numbers, hnext, firstNumbers_succ, hcast]
        rfl
      case order => exact h.order.append fun sequence account score hmem => by simp at hmem

/-- **An attempt keeps the books right.** It is published with the number whose quiz was attempted,
because only one number leads to a quiz. -/
theorem attempted (h : Accounted rules start v) (hkeeps : rules.keepsEvents = true)
    (hsep : rules.hash.Separates) (hrange : v.contents.InRange) {ctx : CallContext} {sequence : Int}
    {submission : Answers} {outcome : Except Fault Nat}
    (hattempted : Attempted rules ctx sequence submission v outcome v') :
    Accounted rules start v' := by
  cases hattempted with
  | refused e => exact h
  | @done sender id quiz key ledger hsender hid hquiz hother hgate hkey hpaid log =>
      obtain ⟨hnumber, rfl⟩ := Rules.derive_eq_ok_iff.mp hid
      obtain ⟨sequence', hmin, hmax, hid', howner⟩ := h.owner _ quiz hquiz
      obtain rfl : sequence' = sequence := by
        have hle := hrange.counter_le
        exact Rules.idOf_inj hsep ⟨by omega, by omega⟩ hnumber hid'
      simp only [Rules.kept_eq hkeeps]
      constructor
      case balance =>
        rw [View.books_of_append rfl, Books.enter_scored howner]
        exact hpaid.balance h.balance
      case rating =>
        rw [View.books_of_append rfl, Books.enter_scored howner]
        simp only [Books.rate, Books.move, ← h.rating, ← Rating.blend_eq]
        exact v.contents.rating_withRating sender _
      case owner =>
        intro id' quiz' hfind
        rw [View.books_of_append rfl, Books.owner_enter_scored]
        exact h.owner id' quiz' hfind
      case numbers =>
        rw [List.filterMap_append, h.numbers]
        exact List.append_nil _
      case order =>
        refine h.order.append fun sequence account score hmem => ?_
        obtain ⟨rfl, -, -⟩ := Event.scored.inj (List.mem_singleton.mp hmem)
        rcases Books.owner_replay howner with hnone | ⟨gate, hcreated⟩
        · cases hnone
        · exact ⟨_, gate, hcreated⟩

/-- **Every request keeps the books right.** -/
theorem served (h : Accounted rules start v) (hkeeps : rules.keepsEvents = true)
    (hsep : rules.hash.Separates) (hrange : v.contents.InRange) {request : Request}
    {outcome : Except Fault Answer} (hserved : Served rules v request outcome v') :
    Accounted rules start v' := by
  cases hserved with
  | create hcreated =>
      cases hcreated with
      | refused e => exact h
      | entered hquiz hentered => exact h.entered hkeeps hrange hentered
  | attempt hattempted => exact h.attempted hkeeps hsep hrange hattempted
  | delete hdeleted => exact h.loses hdeleted.loses
  | tick hfired => exact h.loses hfired.loses
  | advance => exact ⟨h.balance, h.rating, h.owner, h.numbers, h.order⟩
  | step hstepped => exact h.loses hstepped.loses
  | loop hlooped log =>
      have hnext := h.loses hlooped.loses
      exact ⟨hnext.balance, hnext.rating, hnext.owner, hnext.numbers, hnext.order⟩
  | quiz sequence => exact h
  | rating account => exact h
  | latest => exact h
  | pending due => exact h

end Accounted

namespace Hall

/-- **The events account for everything.** After every run of a hall that was opened over empty
stores and keeps its events, whoever knows the balances at the beginning and has followed the events
knows what everybody has and how everybody is rated. The creations carry the first numbers in their
order, up to the number of the latest quiz, and every score comes after the creation of its quiz. -/
theorem events_account (settings : Settings) (hash : HashService) (ledger : Ledger) (clock : Int)
    (requests : List Request) (hsep : hash.Separates) :
    let last := (serve (Rules.ofSettings settings hash true) (ofSettings settings ledger clock)
      requests).2
    let books := (Books.opening ledger.balance).replay settings.tokensPerQuestion last.events
    (∀ account, last.ledger.balance account = books.balance account ∧
      ((Act.rating account).run last).1 = .ok (books.rating account)) ∧
    (∃ n : Nat, (Act.counter.run last).1 = .ok (n : Int) ∧
      last.events.filterMap Event.createdSequence? = firstNumbers n) ∧
    ScoredAfterCreated last.events := by
  intro last books
  obtain ⟨v, hshows, h⟩ := serve_keeps
    (fun v v' request outcome hrange h hserved => Accounted.served h rfl hsep hrange hserved)
    (shows_ofSettings settings ledger clock)
    (Accounted.opening (Rules.ofSettings settings hash true) ledger clock) requests
  have hbooks : books = v.books (Rules.ofSettings settings hash true) ledger := by
    rw [View.books, ← hshows.events]
    rfl
  have hcounter := hshows.inRange.counter_nonneg
  rw [hbooks]
  refine ⟨fun account => ⟨?_, ?_⟩, ⟨v.contents.counter.toNat, ?_, ?_⟩, ?_⟩
  · rw [← h.balance, ← hshows.ledger]
  · rw [(Act.Yields.rating account v).outcome_eq hshows, h.rating]
  · rw [(Act.Yields.counter v).outcome_eq hshows, Int.toNat_of_nonneg hcounter]
  · rw [hshows.events]
    exact h.numbers
  · rw [hshows.events]
    exact h.order

/-- A hall in which a guest with a hundred tokens has given one wrong answer to the first quiz. -/
def afterFirstAttempt : Hall :=
  (serve (Rules.ofSettings default asCharacters true)
    (ofSettings default { balances := Table.ofList [("guest", 100)] })
    [openQuiz, .attempt ⟨some "guest"⟩ 1 { firstOptions with answer5 := Fin.last 255 }]).2

/-- The guest has paid ten tokens to the owner and is rated by the score. -/
theorem events_account_of_first_attempt :
    asCharacters.Separates ∧
    afterFirstAttempt.events = [.created 1 "owner" 0, .scored 1 "guest" 4] ∧
    afterFirstAttempt.ledger.balance "guest" = 90 ∧
    afterFirstAttempt.ledger.balance "owner" = 10 ∧
    ((Act.rating "guest").run afterFirstAttempt).1 = .ok 4 ∧
    ∃ n : Nat, (Act.counter.run afterFirstAttempt).1 = .ok (n : Int) ∧ firstNumbers n = [1] := by
  have hevents : afterFirstAttempt.events = [.created 1 "owner" 0, .scored 1 "guest" 4] := rfl
  have h := events_account default asCharacters { balances := Table.ofList [("guest", 100)] } 0
    [openQuiz, .attempt ⟨some "guest"⟩ 1 { firstOptions with answer5 := Fin.last 255 }]
    separates_asCharacters
  obtain ⟨haccounts, ⟨n, hcounter, hnumbers⟩, -⟩ := h
  refine ⟨separates_asCharacters, hevents, ?_, ?_, ?_, n, hcounter, ?_⟩
  · exact (haccounts "guest").1
  · exact (haccounts "owner").1
  · exact (haccounts "guest").2
  · exact hnumbers.symm

end Hall

end QuizHall
