import QuizHall.Proofs.Hall.InOrder
import QuizHall.Proofs.Hall.Ratings
import QuizHall.Proofs.Hall.Soundness

/-!
# Ratings Are a Map

Ratings are kept in memory, as decimal digits in a key space, or in the rows of a table. Nothing of
that can be seen from outside. Whatever calls are made of the ratings, in any order, they are
answered as from a map that gives a number to every account, zero at first, and is changed for one
account at a time. So it makes no difference where the ratings are kept.

A key space has a limit of its own: what is read from it must not have too many digits. So a rating
that is put there from outside has to be short. What is blended from short ratings is short.

## Main definitions

* `RatingCall`, `RatingCall.act`: the calls, and what a hall does with them.
* `RatingCall.onMap`: what a call does to a map.
* `Hall.Mapped`: what a call may do to a hall.

## Main results

* `Hall.ratings_as_map`: after every history, every call is answered from the map, wherever the
  ratings are kept.
-/

namespace QuizHall

/-! ### Calls and maps -/

/-- A call that has to do with the rating of an account. -/
inductive RatingCall where
  /-- Look the rating up. -/
  | get (account : String)
  /-- Store a rating. -/
  | save (account : String) (rating : Int)
  /-- Blend a score into the rating. The rating before is looked up, unless it is given. -/
  | update (account : String) (score : Int) (prior? : Option Int)

namespace RatingCall

/-- The account that a call is about. -/
def account : RatingCall → String
  | get account | save account _ | update account _ _ => account

/-- A call is **short** if the rating that comes with it can be read back from a key space. -/
def Short : RatingCall → Prop
  | get _ => True
  | save _ rating => rating.natAbs < Fault.unwritable
  | update _ _ prior? => ∀ prior, prior? = some prior → prior.natAbs < Fault.unwritable

/-- What a hall does with a call. Storing a rating gives no number. -/
def act : RatingCall → Act (Option Int)
  | get account => some <$> Act.rating account
  | save account rating => (fun _ => none) <$> Act.saveRating account rating
  | update account score prior? => some <$> Act.updateRating account score prior?

/-- What a call answers from a map of ratings, and the map after it. -/
def onMap (ratings : String → Int) : RatingCall → Except Fault (Option Int) × (String → Int)
  | get account => (.ok (some (ratings account)), ratings)
  | save account rating => (.ok none, Function.update ratings account rating)
  | update account score prior? =>
    let prior := prior?.getD (ratings account)
    let rating := (5 * prior + score) / if prior = 0 then 1 else 6
    if 0 ≤ score ∧ score ≤ 5 then (.ok (some rating), Function.update ratings account rating)
    else (.error (.scoreOutOfRange score), ratings)

/-- The map after a history of calls. Nobody has a rating at first. -/
def mapAfter (history : List RatingCall) : String → Int :=
  history.foldl (fun ratings call => (call.onMap ratings).2) fun _ => 0

end RatingCall

/-! ### A rating is stored -/

/-- What is blended is the quotient that the map has. -/
theorem Rating.blend_eq_ediv (prior score : Int) :
    blend prior score = (5 * prior + score) / if prior = 0 then 1 else 6 := by
  rw [blend_eq]
  split
  · next hzero => rw [hzero, Int.mul_zero, Int.zero_add, Int.ediv_one]
  · rfl

/-- What is blended from a short rating is short. -/
theorem Rating.natAbs_blend_lt {prior score : Int} (hscore : 0 ≤ score ∧ score ≤ 5)
    (hprior : prior.natAbs < Fault.unwritable) : (blend prior score).natAbs < Fault.unwritable := by
  have hbest : maxScore < Fault.unwritable := Fault.lt_unwritable (by decide)
  exact Nat.lt_of_le_of_lt (natAbs_blend_le hscore) (max_lt hprior hbest)

/-- What becomes of stores whose ratings are a map, when a rating is stored. -/
structure Stores.Rerated (ratings : String → Int) (account : String) (n : Int)
    (before after : Stores) : Prop where
  /-- The ratings are the map with the new number. -/
  ratings : ∀ other, after.rating other = .ok (Function.update ratings account n other)
  /-- Nothing else is touched. -/
  frame : ∀ slot, slot ≠ .rating account → before.AgreeOn after slot
  /-- No rating moves to a key space. -/
  redis : after.ratings = .redis → before.ratings = .redis

/-- **Storing a rating changes the map** at the account, wherever ratings are kept. -/
theorem Stores.rerated_of_saveRating {s s' : Stores} {ratings : String → Int} {account : String}
    {n : Int} (hratings : ∀ other, s.rating other = .ok (ratings other))
    (hn : s.ratings = .redis → n.natAbs < Fault.unwritable)
    (h : s.saveRating account n = .ok s') : s.Rerated ratings account n s' := by
  constructor
  case ratings =>
    intro other
    by_cases hother : other = account
    · subst hother
      rw [Function.update_self]
      exact rating_saveRating h hn
    · have hframe : s.AgreeOn s' (.rating other) := agreeOn_saveRating h (by simpa using hother)
      rw [Function.update_of_ne hother]
      exact Eq.trans hframe (hratings other)
  case frame => exact fun slot hslot => agreeOn_saveRating h hslot
  case redis =>
    intro hredis
    cases hs : s.ratings with
    | redis => rfl
    | memory table =>
        simp only [saveRating, hs] at h
        obtain rfl := Except.ok.inj h
        cases hredis
    | mysql table =>
        simp only [saveRating, hs, Pool.acquire] at h
        split at h
        · obtain rfl := Except.ok.inj h
          cases hredis
        · cases h

/-! ### What a call does -/

namespace Hall

/-- What a call has to come to in a hall whose ratings are a map. -/
structure Mapped (ratings : String → Int) (call : RatingCall) (before : Hall)
    (outcome : Except Fault (Option Int)) (after : Hall) : Prop where
  /-- The call is answered from the map. -/
  answered : outcome = (call.onMap ratings).1
  /-- All ratings are those of the map after the call. -/
  ratings : ∀ account, after.stores.rating account = .ok ((call.onMap ratings).2 account)
  /-- A call that is refused changes nothing, and is told that a value is of no use. -/
  refused : ∀ e, outcome = .error e → after = before ∧ e.kind = .badValue
  /-- Nothing but the rating of the account is touched in the stores. -/
  frame : ∀ slot, slot ≠ .rating call.account → before.stores.AgreeOn after.stores slot
  /-- Nothing but the stores, the log and the statements is touched in the hall. -/
  rest : after =
    { before with stores := after.stores, log := after.log, statements := after.statements }
  /-- No rating moves to a key space. -/
  redis : after.stores.ratings = .redis → before.stores.ratings = .redis

variable {ratings : String → Int} {hall : Hall}

/-- A call that stores a number and goes through. -/
theorem Mapped.of_rerated {call : RatingCall} {answer : Option Int} {n : Int} {stores : Stores}
    (hcall : call.onMap ratings = (.ok answer, Function.update ratings call.account n))
    (h : hall.stores.Rerated ratings call.account n stores) (log : List LogRecord)
    (statements : List Statement) :
    hall.Mapped ratings call (.ok answer) { hall with stores, log, statements } where
  answered := by rw [hcall]
  ratings := by
    rw [hcall]
    exact h.ratings
  refused := fun e he => by cases he
  frame := h.frame
  rest := rfl
  redis := h.redis

/-- A call that is refused. -/
theorem Mapped.of_refused {call : RatingCall} {e : Fault}
    (hcall : call.onMap ratings = (.error e, ratings)) (hkind : e.kind = .badValue)
    (hratings : ∀ account, hall.stores.rating account = .ok (ratings account)) :
    hall.Mapped ratings call (.error e) hall where
  answered := by rw [hcall]
  ratings := by
    rw [hcall]
    exact hratings
  refused := fun e' he' => by
    obtain rfl := Except.error.inj he'
    exact ⟨rfl, hkind⟩
  frame := fun slot _ => .refl hall.stores slot
  rest := rfl
  redis := id

/-- **A score that counts is blended** into the rating of an account, which may have been looked up
or given. -/
theorem ends_blend_mapped (inOrder : hall.outages.find? .ratingSave = none)
    (hratings : ∀ account, hall.stores.rating account = .ok (ratings account)) {account : String}
    {score : Int} (hscore : 0 ≤ score ∧ score ≤ 5) (prior? : Option Int)
    (hprior : hall.stores.ratings = .redis →
      (prior?.getD (ratings account)).natAbs < Fault.unwritable) (statements : List Statement) :
    (do
      let blended := Rating.blend (prior?.getD (ratings account)) score
      Act.saveRating account blended
      Act.note (.rated (prior?.getD (ratings account)) blended) account
      return blended : Act Int).Ends { hall with statements }
        fun outcome => hall.Mapped ratings (.update account score prior?) (outcome.map some) := by
  let prior := prior?.getD (ratings account)
  have hcall : (RatingCall.update account score prior?).onMap ratings =
      (.ok (some (Rating.blend prior score)),
        Function.update ratings account (Rating.blend prior score)) := by
    rw [Rating.blend_eq_ediv]
    exact if_pos hscore
  refine .bind (.saveRating_eq inOrder (hratings account) fun stores statements hsave => ?_)
  have hstored : hall.stores.Rerated ratings account (Rating.blend prior score) stores :=
    Stores.rerated_of_saveRating hratings
      (fun hredis => Rating.natAbs_blend_lt hscore (hprior hredis)) hsave
  exact .bind (.note fun log => .answer (.of_rerated hcall hstored log statements))

/-- **One more call** is answered from the map, and changes the ratings as it changes the map. -/
theorem ends_act_mapped (inOrder : ∀ call, hall.outages.find? call = none)
    (hratings : ∀ account, hall.stores.rating account = .ok (ratings account)) (call : RatingCall)
    (hshort : hall.stores.ratings = .redis → call.Short) :
    call.act.Ends hall (hall.Mapped ratings call) := by
  cases call with
  | get account =>
      refine .map (.rating_eq (inOrder .ratingGet) (hratings account) fun statements => ?_)
      constructor
      case answered => rfl
      case ratings => exact hratings
      case refused =>
        intro e he
        cases he
      case frame => exact fun slot _ => .refl hall.stores slot
      case rest => rfl
      case redis => exact id
  | save account n =>
      refine .map (.saveRating_eq (inOrder .ratingSave) (hratings account)
        fun stores statements hsave => ?_)
      have hstored : hall.stores.Rerated ratings account n stores :=
        Stores.rerated_of_saveRating hratings hshort hsave
      exact .of_rerated rfl hstored hall.log statements
  | update account score prior? =>
      by_cases hscore : 0 ≤ score ∧ score ≤ 5
      case neg =>
        have hcheck : Rating.checkScore score = .error (.scoreOutOfRange score) := if_neg hscore
        have hcall : (RatingCall.update account score prior?).onMap ratings =
            (.error (.scoreOutOfRange score), ratings) := if_neg hscore
        refine .map (.bind (.ofExcept (fun e he => ?_) fun _ hok => ?_))
        · obtain rfl := Except.error.inj (he.symm.trans hcheck)
          exact .of_refused hcall (ite_self _) hratings
        · cases hok.symm.trans hcheck
      have hcheck : Rating.checkScore score = .ok () := if_pos hscore
      refine .map (.bind (.ofExcept (fun e he => ?_) fun _ _ => ?_))
      · cases he.symm.trans hcheck
      cases prior? with
      | some prior =>
          refine .bind (.answer ?_)
          exact ends_blend_mapped (inOrder .ratingSave) hratings hscore (some prior)
            (fun hredis => hshort hredis prior rfl) hall.statements
      | none =>
          refine .bind (.rating_eq (inOrder .ratingGet) (hratings account) fun statements => ?_)
          exact ends_blend_mapped (inOrder .ratingSave) hratings hscore none
            (fun hredis => Stores.natAbs_lt_of_rating hredis (hratings account)) statements

/-! ### Whole histories -/

/-- The ratings of a hall **are the map** of the history that has led there from another hall. -/
structure MapOf (start : Hall) (history : List RatingCall) (hall : Hall) : Prop where
  /-- All ratings are those of the map. -/
  ratings : ∀ account, hall.stores.rating account = .ok (RatingCall.mapAfter history account)
  /-- The same calls are out of order. -/
  outages : hall.outages = start.outages
  /-- Ratings are in a key space only if they were there before. -/
  redis : hall.stores.ratings = .redis → start.stores.ratings = .redis

/-- **After every history the ratings are its map**, in a hall in which nobody was rated at
first. -/
theorem mapOf_after (inOrder : ∀ call, hall.outages.find? call = none)
    (hempty : ∀ account, hall.stores.rating account = .ok 0) (history : List RatingCall) :
    (hall.stores.ratings = .redis → ∀ call ∈ history, call.Short) →
      hall.MapOf history (hall.after RatingCall.act history) := by
  refine after_induction
    (P := fun history after => (hall.stores.ratings = .redis → ∀ call ∈ history, call.Short) →
      hall.MapOf history after)
    (fun _ => ⟨hempty, rfl, id⟩) (fun history call before hbefore hshort => ?_) history
  have hmap := hbefore fun h c hc => hshort h c (List.mem_append_left [call] hc)
  have hcall := ends_act_mapped (fun c => hmap.outages ▸ inOrder c) hmap.ratings call
    fun h => hshort (hmap.redis h) call (by simp)
  constructor
  case ratings =>
    rw [RatingCall.mapAfter, List.foldl_append]
    exact hcall.ratings
  case outages => exact (congrArg Hall.outages hcall.rest).trans hmap.outages
  case redis => exact fun h => hmap.redis (hcall.redis h)

/-- After every history, one more call is answered from the map of the history. -/
theorem mapped_after (inOrder : ∀ call, hall.outages.find? call = none)
    (hempty : ∀ account, hall.stores.rating account = .ok 0) (history : List RatingCall)
    (call : RatingCall)
    (hshort : hall.stores.ratings = .redis → ∀ call' ∈ history ++ [call], call'.Short) :
    let before := hall.after RatingCall.act history
    let result := call.act.run before
    before.Mapped (RatingCall.mapAfter history) call result.1 result.2 := by
  have hmap := mapOf_after inOrder hempty history
    fun h c hc => hshort h c (List.mem_append_left [call] hc)
  exact ends_act_mapped (fun c => hmap.outages ▸ inOrder c) hmap.ratings call
    fun h => hshort (hmap.redis h) call (by simp)

/-- **Ratings are a map**, wherever they are kept. In halls in which nobody is rated, whatever calls
are made of the ratings, the next one is answered from the map that the calls before it have left,
and changes the ratings as it changes the map. A score that does not count is refused. So halls that
keep their ratings in different places give the same answers.

Where ratings are kept in a key space, those that come from outside have to be short. -/
theorem ratings_as_map {hall' : Hall} (inOrder : ∀ call, hall.outages.find? call = none)
    (inOrder' : ∀ call, hall'.outages.find? call = none)
    (hempty : ∀ account, hall.stores.rating account = .ok 0)
    (hempty' : ∀ account, hall'.stores.rating account = .ok 0) (history : List RatingCall)
    (call : RatingCall)
    (hshort : hall.stores.ratings = .redis ∨ hall'.stores.ratings = .redis →
      ∀ call' ∈ history ++ [call], call'.Short) :
    let before := hall.after RatingCall.act history
    let before' := hall'.after RatingCall.act history
    let result := call.act.run before
    let result' := call.act.run before'
    before.Mapped (RatingCall.mapAfter history) call result.1 result.2 ∧
      before'.Mapped (RatingCall.mapAfter history) call result'.1 result'.2 ∧
      result.1 = result'.1 := by
  have hmapped := mapped_after inOrder hempty history call fun h => hshort (.inl h)
  have hmapped' := mapped_after inOrder' hempty' history call fun h => hshort (.inr h)
  exact ⟨hmapped, hmapped', hmapped.answered.trans hmapped'.answered.symm⟩

/-- Settings that keep ratings in a table. -/
def inTable : Settings := { (default : Settings) with ratingBackend := some .mysql }

/-- A key space and a table agree on a rating below zero, which is rounded down when a score is
blended into it. Both refuse a score of six. -/
theorem ratings_as_map_below_zero :
    let history := [RatingCall.save "a" (-7), .update "b" 4 none]
    let inSpace := (ofSettings inKeySpace).after RatingCall.act history
    let inRows := (ofSettings inTable).after RatingCall.act history
    let blend := RatingCall.update "a" 3 none
    let refuse := RatingCall.update "a" 6 none
    ((ofSettings inKeySpace).stores.ratings = .redis ∧
      ∃ table, (ofSettings inTable).stores.ratings = .mysql table) ∧
    ((∀ call, (ofSettings inKeySpace).outages.find? call = none) ∧
      (∀ call, (ofSettings inTable).outages.find? call = none) ∧
      (∀ account, (ofSettings inKeySpace).stores.rating account = .ok 0) ∧
      (∀ account, (ofSettings inTable).stores.rating account = .ok 0) ∧
      ∀ call ∈ history ++ [blend], call.Short) ∧
    ((blend.act.run inSpace).1 = .ok (some (-6)) ∧ (blend.act.run inRows).1 = .ok (some (-6))) ∧
    (refuse.act.run inSpace).1 = .error (.scoreOutOfRange 6) ∧
      (refuse.act.run inRows).1 = .error (.scoreOutOfRange 6) := by
  intro history inSpace inRows blend refuse
  have inOrder : ∀ call, (ofSettings inKeySpace).outages.find? call = none := fun _ => rfl
  have inOrder' : ∀ call, (ofSettings inTable).outages.find? call = none := fun _ => rfl
  have hempty := rating_ofSettings inKeySpace {} 0
  have hempty' := rating_ofSettings inTable {} 0
  have hseven : 7 < Fault.unwritable := Fault.lt_unwritable (by decide)
  have hshort (score : Int) : ∀ call ∈ history ++ [.update "a" score none], call.Short := by
    simp [history, hseven, RatingCall.Short]
  have h (score : Int) := ratings_as_map inOrder inOrder' hempty hempty' history
    (.update "a" score none) fun _ => hshort score
  exact ⟨⟨rfl, _, rfl⟩, ⟨inOrder, inOrder', hempty, hempty', hshort 3⟩,
    ⟨(h 3).1.answered, (h 3).2.1.answered⟩, (h 6).1.answered, (h 6).2.1.answered⟩

end Hall

end QuizHall
