import QuizHall.Proofs.Hall.Along
import QuizHall.Proofs.Hall.Creation
import QuizHall.Proofs.Hall.History
import QuizHall.Proofs.Ledger
import QuizHall.Proofs.Store.Soundness

/-!
# Halls in Use Have Sound Stores

A hall opens over empty stores, and whatever it is asked to do, its stores stay sound. That does not
rest on the hash function, which may even give one id to everything, nor on any call being in order.
A creation may be stopped between any two of its calls, and its undoing may fail as well: each call
for itself takes stores that are well formed to stores that are.

It follows that an attempt never misses a key. Where the quiz is found its key is found too, so of
all the reasons for which an attempt can be refused this one does not occur.

## Main results

* `Request.keepsWellFormed`: every request leaves well-formed stores behind.
* `Hall.reached_sound`: the stores of every hall that is reached are sound.
-/

namespace QuizHall

variable {p : Places} {checksAllAnswers : Bool}

/-! ### Requests -/

/-- A change **keeps** stores well formed if those after it are so whenever those before it are. -/
def Stores.KeepsWellFormed (p : Places) (checksAllAnswers : Bool) (s s' : Stores) : Prop :=
  s.WellFormed p checksAllAnswers → s'.WellFormed p checksAllAnswers

instance : IsPreorder Stores (Stores.KeepsWellFormed p checksAllAnswers) where
  refl := fun _ hs => hs
  trans := fun _ _ _ h h' hs => h' (h hs)

/-- What is removed is not missed. -/
theorem Stores.KeepsWellFormed.allowsRemovals :
    AllowsRemovals (KeepsWellFormed p checksAllAnswers) :=
  ⟨fun hdelete hs => hs.deleteQuiz hdelete, fun hdrain hs => hs.drainBucket hdrain⟩

/-- A creation stores a quiz with an owner and a key that names options, since both were checked. -/
theorem Act.create_keepsWellFormed (rules : Rules) (ctx : CallContext) (questions : List Question)
    (key : Answers) (gate : Json.Value) :
    (Act.create rules ctx questions key gate).Along
      (Stores.KeepsWellFormed p rules.checksAllAnswers) := by
  refine .create (fun hquiz hplaced hs => ?_) (fun happend hs => hs.appendBucket happend)
    (fun hn hnumber hput hs => hs.putCounter hn hnumber.2 hput)
    fun hdelete hs => hs.deleteQuiz hdelete
  obtain ⟨hsender, -, -, hkey⟩ := Rules.newQuiz_eq_ok hquiz
  have howner := (CallContext.sender_eq_ok_iff.mp hsender).2
  exact hs.createQuiz howner hkey hplaced

/-- An attempt stores a blend of numbers that are in range. -/
theorem Act.attempt_keepsWellFormed (rules : Rules) (ctx : CallContext) (sequence : Int)
    (submission : Answers) :
    (Act.attempt rules ctx sequence submission).Along
      (Stores.KeepsWellFormed p checksAllAnswers) := by
  refine .attempt @fun s s' account prior score hprior hscore hsave hs => ?_
  have hrange : 0 ≤ (score : Int) ∧ (score : Int) ≤ (maxScore : Int) := by omega
  exact hs.saveRating (Rating.blend_bounds (hs.rating_bounds hprior) hrange) hsave

/-- **Every request leaves well-formed stores behind**, whichever calls are out of order. -/
theorem Request.keepsWellFormed (rules : Rules) (request : Request) :
    (request.act rules).Along (Stores.KeepsWellFormed p rules.checksAllAnswers) := by
  refine request.along rules Stores.KeepsWellFormed.allowsRemovals ?_ ?_
  · rintro ctx questions key gate -
    exact Act.create_keepsWellFormed rules ctx questions key gate
  · rintro ctx sequence submission -
    exact Act.attempt_keepsWellFormed rules ctx sequence submission

/-! ### Attempts find their keys -/

/-- A payment is never refused for want of a key. -/
theorem Unpaid.ne_noKey {before : Ledger} {payer owner : String} {amount : Int} {e : Fault}
    (h : Unpaid before payer owner amount e) (sequence : Int) : e ≠ .noKey sequence := by
  cases h with
  | short h => simp
  | refused htransfer =>
      rcases Ledger.transfer_eq_error htransfer with rfl | rfl
      · split <;> simp
      · split <;> simp

/-- **Where quizzes and keys come in pairs an attempt never misses a key.** -/
theorem Act.attempt_ne_noKey {rules : Rules} {ctx : CallContext} {sequence : Int}
    {submission : Answers} {hall : Hall} {v : View} (hshows : hall.Shows p v)
    (hpaired : ∀ id, v.contents.quizzes.contains id = v.contents.keys.contains id) (s : Int) :
    ((Act.attempt rules ctx sequence submission).run hall).1 ≠ .error (.noKey s) := by
  intro hfails
  rcases Yields.attempt_refused hshows hfails with hsender | ⟨sender, -, hrefused⟩
  · have hunsigned := CallContext.sender_eq_error hsender
    cases hunsigned
  -- Every reason but the missing key comes with a fault of its own.
  generalize hfault : Fault.noKey s = fault at hrefused
  cases hrefused with
  | noNumber hid =>
      have hbeyond := Rules.eq_beyondU64_of_derive hid
      rw [← hfault] at hbeyond
      cases hbeyond
  | @noKey id quiz hid hquiz hkey =>
      have hfound := hpaired id
      rw [Table.contains, Table.contains, hquiz, hkey] at hfound
      cases hfound
  | unpaid hid hquiz hkey hpay => exact hpay.ne_noKey s hfault.symm
  | noQuiz hid hquiz => cases hfault
  | own hid hquiz howner => cases hfault
  | ratingTooLow hid hquiz hgate => cases hfault

/-- A hall with well-formed stores shows contents that are well formed, once its calls are in order
again. -/
theorem Stores.WellFormed.exists_shows {hall : Hall}
    (h : hall.stores.WellFormed p checksAllAnswers) :
    ∃ v : View, Hall.Shows { hall with outages := Table.empty } p v ∧
      v.contents.WellFormed checksAllAnswers := by
  obtain ⟨c, hholds, hrange, hc⟩ := h
  exact ⟨⟨c, hall.ledger, hall.clock, hall.events, hall.log, hall.naps⟩,
    ⟨hholds, hrange, rfl, rfl, rfl, rfl, rfl, fun _ => rfl⟩, hc⟩

namespace Hall

/-! ### Halls that are reached -/

/-- **The stores of every hall that is reached are sound**, in every place where they can be kept
and for every hash function, whichever calls have failed on the way. Quizzes and keys come in pairs,
everything that is kept is as it should be, and nothing that is read raises a fault. So no attempt
misses the key of a quiz. -/
theorem reached_sound (settings : Settings) (hash : HashService) (keepsEvents : Bool)
    (ledger : Ledger) (clock : Int) {hall : Hall}
    (h : Reached (Rules.ofSettings settings hash keepsEvents)
      (ofSettings settings ledger clock) hall) :
    hall.stores.Sound settings.validateAllAnswers ∧
    ∀ ctx sequence submission s,
      ((Act.attempt (Rules.ofSettings settings hash keepsEvents) ctx sequence submission).run
        { hall with outages := Table.empty }).1 ≠ .error (.noKey s) := by
  have hstart : (ofSettings settings ledger clock).stores.WellFormed settings.places
      settings.validateAllAnswers := .ofSettings settings _
  have hwellFormed := h.along
    (fun request => request.keepsWellFormed (Rules.ofSettings settings hash keepsEvents)) hstart
  refine ⟨hwellFormed.sound, fun ctx sequence submission s => ?_⟩
  obtain ⟨v, hshows, hcontents⟩ := hwellFormed.exists_shows
  exact Act.attempt_ne_noKey hshows hcontents.paired s

/-- Settings that keep everything in a key space. -/
def inKeySpace : Settings := { (default : Settings) with storageBackend := .redis }

/-- A hash function that tells nothing apart. -/
def tellsNothingApart : HashService := fun _ => ""

/-- The hall after two creations. In the first one the counter cannot be moved, nor can the quiz be
removed again, so it is still in the way of the second one. -/
def afterStuckCreation : Hall :=
  let rules := Rules.ofSettings inKeySpace tellsNothingApart true
  let outages := (Table.empty.insert .counterPut .system).insert .quizDelete .system
  let stuck := (serve rules { ofSettings inKeySpace with outages } [openQuiz]).2
  (serve rules { stuck with outages := Table.empty } [openQuiz]).2

/-- The quiz that could not be removed has a key and can be read, although it was never counted. -/
theorem reached_sound_afterStuckCreation :
    Reached (Rules.ofSettings inKeySpace tellsNothingApart true) (ofSettings inKeySpace)
      afterStuckCreation ∧
    afterStuckCreation.stores.keepsQuiz "" ∧
    afterStuckCreation.stores.Sound inKeySpace.validateAllAnswers ∧
    ((Act.attempt (Rules.ofSettings inKeySpace tellsNothingApart true) ⟨some "guest"⟩ 1
      firstOptions).run { afterStuckCreation with outages := Table.empty }).1 ≠
        .error (.noKey 1) := by
  have hreached : Reached (Rules.ofSettings inKeySpace tellsNothingApart true)
      (ofSettings inKeySpace) afterStuckCreation :=
    .serve (.disturbed (.serve (.disturbed .start _) [openQuiz]) _) [openQuiz]
  obtain ⟨hsound, hkeyed⟩ := reached_sound inKeySpace tellsNothingApart true {} 0 hreached
  exact ⟨hreached, rfl, hsound, hkeyed ⟨some "guest"⟩ 1 firstOptions 1⟩

end Hall

end QuizHall
