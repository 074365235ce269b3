import QuizHall.Proofs.Hall.Chronicle

/-!
# No Quiz Is Orphaned

A run is driven if the clock moves in steps only, each of which fires the tick that it moves on to.
In a driven run no tick is ever skipped, fired early or fired twice, so the lifetime of a quiz can
be read off the clock alone: a quiz that its owner does not delete lives from the tick at which it
was created until just before the tick at which it falls due. All the while its id stands once in
the bucket of that tick, and in no other.

The last tick of 64 bits is no exception. A quiz that would fall due after it is refused, so no
quiz can wait for a tick that has no bucket.

## Main results

* `Driven.mem_fired_iff`: between two ticks just the ticks in between are fired.
* `Hall.serve_driven`: the history of a driven run is driven.
* `Hall.not_orphaned`: which quizzes are stored in a driven run, and until when.
-/

namespace QuizHall

/-! ### Driven histories -/

/-- A history is **driven** from one tick to another if every tick that is fired is the next one,
and every creation is made at the tick at which the clock stands by then. -/
inductive Driven : Int → List Deed → Int → Prop
  /-- Where nothing happens the clock stands still. -/
  | nil (t : Int) : Driven t [] t
  /-- A quiz is created at the current tick. -/
  | created {b : Creation} {rest : List Deed} {t' : Int} (h : Driven b.clock rest t') :
      Driven b.clock (.created b :: rest) t'
  /-- A quiz is deleted. -/
  | deleted (ctx : CallContext) (sequence : Int) {t t' : Int} {rest : List Deed}
      (h : Driven t rest t') : Driven t (.deleted ctx sequence :: rest) t'
  /-- The clock moves on, and the new tick is fired. -/
  | fired {t t' : Int} {rest : List Deed} (h : Driven (t + 1) rest t') :
      Driven t (.fired (t + 1) :: rest) t'

namespace Driven

variable {t t' t'' : Int} {deeds more : List Deed}

/-- One driven history can follow another. -/
theorem append (h : Driven t deeds t') (hmore : Driven t' more t'') :
    Driven t (deeds ++ more) t'' := by
  induction h with
  | nil t => exact hmore
  | created _ ih => exact .created (ih hmore)
  | deleted ctx sequence _ ih => exact .deleted ctx sequence (ih hmore)
  | fired _ ih => exact .fired (ih hmore)

/-- From a creation on, a history is driven from the tick of the creation. -/
theorem of_created {b : Creation} (h : Driven t (deeds ++ .created b :: more) t') :
    Driven b.clock more t' := by
  induction deeds generalizing t with
  | nil =>
      cases h with
      | created h => exact h
  | cons d deeds ih =>
      cases h with
      | created h => exact ih h
      | deleted _ _ h => exact ih h
      | fired h => exact ih h

/-- The clock never goes back. -/
theorem le (h : Driven t deeds t') : t ≤ t' := by
  induction h with
  | nil t => exact Int.le_refl t
  | created _ ih => exact ih
  | deleted _ _ _ ih => exact ih
  | fired _ ih => omega

/-- **Just the ticks in between are fired**: none is skipped, and none is fired early. -/
theorem mem_fired_iff (h : Driven t deeds t') {tick : Int} :
    .fired tick ∈ deeds ↔ t < tick ∧ tick ≤ t' := by
  induction h with
  | nil t =>
      constructor
      · intro hmem
        cases hmem
      · rintro ⟨hlt, hle⟩
        omega
  | created _ ih => simpa using ih
  | deleted _ _ _ ih => simpa using ih
  | @fired t t' rest h ih =>
      have hle := h.le
      rw [List.mem_cons, Deed.fired.injEq, ih]
      omega

/-- The ticks of a way are driven. -/
theorem firings (t : Int) (n : Nat) : Driven t (firings t (t + n)) (t + n) := by
  induction n generalizing t with
  | zero =>
      rw [Int.natCast_zero, Int.add_zero, firings_self]
      exact .nil t
  | succ n ih =>
      have hnext := ih (t + 1)
      have hend : t + 1 + (n : Int) = t + ((n + 1 : Nat) : Int) := by omega
      rw [hend] at hnext
      rw [firings_cons (by omega)]
      exact .fired hnext

/-- The ticks of a way are driven, if it does not lead back. -/
theorem firings_of_le (h : t ≤ t') : Driven t (QuizHall.firings t t') t' := by
  obtain ⟨n, rfl⟩ := Int.le.dest h
  exact firings t n

/-- In a driven history whoever lives has not fallen due yet. -/
theorem bounds_of_lives {rules : Rules} {b : Creation} (h : Driven t deeds t')
    (hlives : Lives rules deeds b) : b.clock ≤ t' ∧ t' < b.due rules := by
  obtain ⟨earlier, later, rfl, hlater⟩ := hlives
  have hsince := h.of_created
  refine ⟨hsince.le, ?_⟩
  by_contra hdue
  have hdelay := rules.one_le_delay
  have hfired : .fired (b.due rules) ∈ later := by
    refine hsince.mem_fired_iff.mpr ⟨?_, by omega⟩
    rw [Creation.due]
    omega
  exact hlater _ hfired rfl

/-- **In a driven history the clock tells who lives**, unless an owner deletes a quiz. -/
theorem lives_iff {rules : Rules} {earlier later : List Deed} {b : Creation}
    (h : Driven t (earlier ++ .created b :: later) t')
    (hkept : ∀ ctx : CallContext, ctx.signer = b.ctx.signer → .deleted ctx b.sequence ∉ later) :
    Lives rules (earlier ++ .created b :: later) b ↔ t' < b.due rules := by
  constructor
  · exact fun hlives => (h.bounds_of_lives hlives).2
  · refine fun hdue => ⟨earlier, later, rfl, fun d hd hend => ?_⟩
    cases d with
    | created b' => exact hend
    | deleted ctx sequence =>
        obtain ⟨rfl, hsigner⟩ := hend
        exact hkept ctx hsigner hd
    | fired tick =>
        have hle := (h.of_created.mem_fired_iff.mp hd).2
        have htick : tick = b.due rules := hend
        omega

end Driven

/-! ### Driven runs -/

/-- A request is **driven** if it moves the clock in steps, or does not move it. The host neither
fires a tick by itself nor moves the clock on without firing the new tick. -/
def Request.IsDriven : Request → Prop
  | tick _ | advance => False
  | _ => True

/-- What a driven request does is driven. -/
theorem Served.driven {rules : Rules} {v v' : View} {request : Request}
    {outcome : Except Fault Answer} (h : Served rules v request outcome v')
    (hdriven : request.IsDriven) :
    Driven v.clock (request.deeds v.clock v'.clock outcome) v'.clock := by
  cases h with
  | @create ctx questions key gate outcome v' hcreated =>
      rw [hcreated.clock]
      cases outcome with
      | error e => exact .nil v.clock
      | ok n =>
          exact .created (b := ⟨n, ctx, questions, key, gate, v.clock⟩) (.nil v.clock)
  | attempt hattempted =>
      rw [hattempted.clock]
      exact .nil v.clock
  | @delete ctx sequence outcome v' hdeleted =>
      rw [hdeleted.clock]
      cases outcome with
      | error e => exact .nil v.clock
      | ok _ => exact .deleted ctx sequence (.nil v.clock)
  | tick hfired => exact hdriven.elim
  | advance => exact hdriven.elim
  | step hstepped =>
      rw [hstepped.clock]
      exact Driven.firings v.clock 1
  | loop hlooped log => exact Driven.firings_of_le hlooped.clock_le
  | quiz sequence => exact .nil v.clock
  | rating account => exact .nil v.clock
  | latest => exact .nil v.clock
  | pending due => exact .nil v.clock

namespace Hall

/-- **The history of a driven run is driven.** -/
theorem serve_driven {rules : Rules} {hall : Hall} {p : Places} {v : View}
    (hshows : hall.Shows p v) {requests : List Request}
    (hdriven : ∀ request ∈ requests, request.IsDriven) :
    Driven hall.clock (deeds rules hall requests) (serve rules hall requests).2.clock := by
  induction requests generalizing hall v with
  | nil => exact .nil hall.clock
  | cons request rest ih =>
      obtain ⟨outcome, v', hact, hserved⟩ := Act.Yields.serves rules request v
      obtain ⟨hall', hrun, hshows'⟩ := hact p hall hshows
      have hfirst := hserved.driven (hdriven request (by simp))
      have hrest := ih hshows' fun request' hmem => hdriven request' (by simp [hmem])
      rw [← hshows.clock, ← hshows'.clock] at hfirst
      rw [deeds, serve, hrun]
      exact hfirst.append hrest

/-- **No quiz is orphaned.** In every state of a driven run from empty stores, a quiz that is
stored was created at a tick that is not later than the clock, and falls due at one that is later.
Its id stands once in the bucket of that tick, and in no other bucket. A quiz that its owner has not
deleted since is stored, with its key, just as long as the clock has not come to the tick at which
it falls due. No quiz is created that would fall due at a tick beyond 64 bits. -/
theorem not_orphaned (settings : Settings) (hash : HashService) (keepsEvents : Bool)
    (ledger : Ledger) (clock : Int) {requests : List Request} (hsep : hash.Separates)
    (hdriven : ∀ request ∈ requests, request.IsDriven) :
    let rules := Rules.ofSettings settings hash keepsEvents
    let start := ofSettings settings ledger clock
    let last := (serve rules start requests).2
    let history := deeds rules start requests
    (∀ id quiz, last.stores.quiz? id = .ok (some quiz) →
      ∃ b, .created b ∈ history ∧ b.Asks quiz ∧ rules.derive b.sequence = .ok id ∧
        b.clock ≤ last.clock ∧ last.clock < b.clock + rules.delay ∧
        (∃ bucket ids, rules.derive (b.clock + rules.delay) = .ok bucket ∧
          last.stores.bucket bucket = .ok ids ∧ ids.count id = 1) ∧
        ∀ other, rules.derive (b.clock + rules.delay) ≠ .ok other →
          ∃ ids, last.stores.bucket other = .ok ids ∧ id ∉ ids) ∧
    (∀ earlier b later, history = earlier ++ .created b :: later →
      (∀ ctx : CallContext, ctx.signer = b.ctx.signer → .deleted ctx b.sequence ∉ later) →
      ∃ id quiz? key?, rules.derive b.sequence = .ok id ∧ last.stores.quiz? id = .ok quiz? ∧
        last.stores.key? id = .ok key? ∧
        (quiz?.isSome ↔ last.clock < b.clock + rules.delay) ∧
        (key?.isSome ↔ last.clock < b.clock + rules.delay)) ∧
    ∀ ctx questions key gate, (u64Max : Int) < last.clock + rules.delay →
      ∃ fault, ((Act.create rules ctx questions key gate).run last).1 = .error fault := by
  intro rules start last history
  have hsep' : rules.hash.Separates := hsep
  have hstart := shows_ofSettings settings ledger clock
  obtain ⟨v, hshows, h⟩ := serve_chronicle hsep' hstart (Chronicle.nil rules) requests
  have hshows : last.Shows settings.places v := hshows
  have h : Chronicle rules history v.contents := h
  have hclock : Driven start.clock history last.clock := serve_driven hstart hdriven
  refine ⟨fun id quiz hquiz => ?_, fun earlier b later hsplit hkept => ?_,
    fun ctx questions key gate hbeyond => ?_⟩
  · rw [hshows.stores.quiz?] at hquiz
    obtain ⟨b, hlives, rfl, hasks⟩ := h.exists_lives (Except.ok.inj hquiz)
    obtain ⟨hle, hlt⟩ := hclock.bounds_of_lives hlives
    have hnumber := h.isU64_sequence hlives.created_mem
    have hbucket : rules.derive (b.clock + rules.delay) = .ok (rules.idOf (b.due rules)) :=
      Rules.derive_of_isU64 (h.due b hlives.created_mem)
    have hmem := h.mem_bucket hsep' hlives
    refine ⟨b, hlives.created_mem, hasks, Rules.derive_of_isU64 hnumber, hle, hlt,
      ⟨_, _, hbucket, hshows.stores.bucket _, ?_⟩, fun other hother => ?_⟩
    · exact List.count_eq_one_of_mem (h.nodup_bucket hsep' _) ((hmem _).mpr rfl)
    · refine ⟨_, hshows.stores.bucket other, fun hid => hother ?_⟩
      rw [hbucket, (hmem other).mp hid]
  · have hcreated : .created b ∈ history := by
      rw [hsplit]
      simp
    have hlives : Lives rules history b ↔ last.clock < b.due rules := by
      rw [hsplit] at hclock ⊢
      exact hclock.lives_iff hkept
    obtain ⟨hquiz, hkey⟩ := h.isSome_iff_lives hsep' hcreated
    exact ⟨_, _, _, Rules.derive_of_isU64 (h.isU64_sequence hcreated), hshows.stores.quiz? _,
      hshows.stores.key? _, hquiz.trans hlives, hkey.trans hlives⟩
  · obtain ⟨outcome, v', hcreate, hcreated⟩ := Act.Yields.create rules ctx questions key gate v
    have hdue : ¬ IsU64 (v.clock + rules.delay) := by
      rintro ⟨-, hle⟩
      rw [← hshows.clock] at hle
      omega
    rw [hcreate.outcome_eq hshows]
    exact hcreated.error_of_not_isU64 hdue

/-- Settings under which a quiz lives for two ticks. -/
def shortLived : Settings :=
  { (default : Settings) with deletionDelay := 2, one_le_deletionDelay := by decide }

/-- A new hall with these settings, after the first quiz was created and some steps were made. -/
def afterSteps (n : Nat) : Hall :=
  (serve (Rules.ofSettings shortLived asCharacters true) (ofSettings shortLived)
    (openQuiz :: List.replicate n .step)).2

/-- The first quiz is there, with its key, after one step, and is gone after two. -/
theorem not_orphaned_of_two_steps :
    asCharacters.Separates ∧
    (∀ request ∈ openQuiz :: List.replicate 1 .step, request.IsDriven) ∧
    (∀ request ∈ openQuiz :: List.replicate 2 .step, request.IsDriven) ∧
    (∃ id quiz key, (Rules.ofSettings shortLived asCharacters true).derive 1 = .ok id ∧
      (afterSteps 1).stores.quiz? id = .ok (some quiz) ∧
      (afterSteps 1).stores.key? id = .ok (some key)) ∧
    ∃ id, (Rules.ofSettings shortLived asCharacters true).derive 1 = .ok id ∧
      (afterSteps 2).stores.quiz? id = .ok none ∧ (afterSteps 2).stores.key? id = .ok none := by
  have hdriven (n : Nat) : ∀ request ∈ openQuiz :: List.replicate n .step, request.IsDriven := by
    intro request hmem
    rcases List.mem_cons.mp hmem with rfl | hmem
    · trivial
    · rw [List.eq_of_mem_replicate hmem]
      trivial
  refine ⟨separates_asCharacters, hdriven 1, hdriven 2, ?_, ?_⟩
  · have hhistory : deeds (Rules.ofSettings shortLived asCharacters true) (ofSettings shortLived)
        (openQuiz :: List.replicate 1 .step) = [] ++ .created openQuizCreation :: [.fired 1] := rfl
    have hdue : (afterSteps 1).clock <
        openQuizCreation.clock + (Rules.ofSettings shortLived asCharacters true).delay := by decide
    obtain ⟨id, quiz?, key?, hid, hquiz, hkey, hquiz?, hkey?⟩ :=
      (not_orphaned shortLived asCharacters true {} 0 separates_asCharacters (hdriven 1)).2.1 _ _ _
        hhistory (by simp)
    obtain ⟨quiz, rfl⟩ := Option.isSome_iff_exists.mp (hquiz?.mpr hdue)
    obtain ⟨key, rfl⟩ := Option.isSome_iff_exists.mp (hkey?.mpr hdue)
    exact ⟨id, quiz, key, hid, hquiz, hkey⟩
  · have hhistory : deeds (Rules.ofSettings shortLived asCharacters true) (ofSettings shortLived)
        (openQuiz :: List.replicate 2 .step) =
          [] ++ .created openQuizCreation :: [.fired 1, .fired 2] := rfl
    have hdue : ¬ (afterSteps 2).clock <
        openQuizCreation.clock + (Rules.ofSettings shortLived asCharacters true).delay := by decide
    obtain ⟨id, quiz?, key?, hid, hquiz, hkey, hquiz?, hkey?⟩ :=
      (not_orphaned shortLived asCharacters true {} 0 separates_asCharacters (hdriven 2)).2.1 _ _ _
        hhistory (by simp)
    obtain rfl : quiz? = none := Option.not_isSome_iff_eq_none.mp (mt hquiz?.mp hdue)
    obtain rfl : key? = none := Option.not_isSome_iff_eq_none.mp (mt hkey?.mp hdue)
    exact ⟨id, hid, hquiz, hkey⟩

end Hall

end QuizHall
