import QuizHall.Proofs.Hall.Driven
import QuizHall.Program

/-!
# Lifetimes Across a Restart

The stores of a hall can outlive the hall. A new hall that is opened over them finds the quizzes and
the buckets where they were, and the counter goes on from the number that it had come to. The clock
does not: the tick is kept in the hall alone, and a hall that is told nothing else begins at zero.

What a bucket is named after is the tick at which it falls due, so a quiz that is alive when the
hall is opened again does not fall due some ticks after that, but at the very tick for which it was
scheduled. If the new hall takes up the clock where the old one left it, the quiz is gone in time.
If it begins at zero, all the ticks that had passed when the quiz was created have to pass once more
before the last ticks of its life are counted. And if it begins later than the quiz falls due, the
tick is never fired and the quiz stays.

## Main results

* `Chronicle.lives_append_driven_iff`: whose life goes on in a new hall, and until when.
* `Hall.lifetime_after_restart`: which quizzes of an earlier hall are stored in a later one.
* `Hall.outlives_delay_after_restart`: a quiz that outlives its delay in a hall that was opened
  again.
-/

namespace QuizHall

/-- In a driven history nothing is created at a tick before its first one. -/
theorem Driven.le_of_created {t t' : Int} {deeds : List Deed} (h : Driven t deeds t') {b : Creation}
    (hb : .created b ∈ deeds) : t ≤ b.clock := by
  induction h with
  | nil t => cases hb
  | @created b' rest t' h ih =>
      rcases List.mem_cons.mp hb with heq | hb
      · exact Int.le_of_eq (congrArg Creation.clock (Deed.created.inj heq)).symm
      · exact ih hb
  | deleted ctx sequence _ ih => exact ih (by simpa using hb)
  | fired _ ih =>
      have hle := ih (by simpa using hb)
      omega

/-- Who has been ended does not live, whatever happens after that. -/
theorem Chronicle.not_lives_of_ended {rules : Rules} {history more : List Deed} {c : Contents}
    (h : Chronicle rules (history ++ more) c) {b : Creation} (hb : .created b ∈ history) {d : Deed}
    (hd : d ∈ more) (hend : b.EndedBy rules d) : ¬ Lives rules (history ++ more) b := by
  obtain ⟨before, after, rfl⟩ := List.append_of_mem hd
  have hsplit : history ++ (before ++ d :: after) = (history ++ before ++ [d]) ++ after := by
    simp
  rw [hsplit] at h ⊢
  have hgone : ¬ Lives rules (history ++ before ++ [d]) b := by
    intro hlives
    rcases lives_append_singleton.mp hlives with ⟨-, hstays⟩ | rfl
    · exact hstays hend
    · exact hend
  exact fun hlives => h.gone_append (by simp [hb]) hgone b hlives rfl

/-- **Whose life goes on in a driven history that follows**, if its owner does not end it: everybody
whose tick is not among those that are fired. -/
theorem Chronicle.lives_append_driven_iff {rules : Rules} {history more : List Deed} {c : Contents}
    (h : Chronicle rules (history ++ more) c) {b : Creation} (hlives : Lives rules history b)
    {t t' : Int} (hdriven : Driven t more t')
    (hkept : ∀ ctx : CallContext, ctx.signer = b.ctx.signer → .deleted ctx b.sequence ∉ more) :
    Lives rules (history ++ more) b ↔ ¬ (t < b.due rules ∧ b.due rules ≤ t') := by
  rw [← hdriven.mem_fired_iff]
  constructor
  · exact fun hlives' hfired => h.not_lives_of_ended hlives.created_mem hfired rfl hlives'
  · intro hnever
    obtain ⟨earlier, later, rfl, hlater⟩ := hlives
    refine ⟨earlier, later ++ more, by simp, fun d hd hend => ?_⟩
    rcases List.mem_append.mp hd with hd | hd
    · exact hlater d hd hend
    · cases d with
      | created b' => exact hend
      | deleted ctx sequence =>
          obtain ⟨rfl, hsigner⟩ := hend
          exact hkept ctx hsigner hd
      | fired tick =>
          have htick : tick = b.due rules := hend
          exact hnever (htick ▸ hd)

namespace Hall

/-- A hall that is opened over stores shows what is in them. -/
theorem Shows.onStores {hall : Hall} {p : Places} {v : View} (h : hall.Shows p v)
    (ledger : Ledger) (clock : Int) :
    (onStores hall.stores ledger clock).Shows p { contents := v.contents, ledger, clock } :=
  ⟨h.stores, h.inRange, rfl, rfl, rfl, rfl, rfl, fun _ => rfl⟩

/-- **Lifetimes across a restart.** Let a hall be opened over the stores that a driven run has left
behind, at any tick, and let it go on with a driven run of its own. Every quiz that was stored when
the hall was opened was created in the earlier run. If its owner does not delete it in the later
one, it is stored with its key unless the clock of the new hall has come from before the tick at
which the quiz falls due to that tick or beyond.

So a new hall that takes up the clock where the old one left it has no quiz of an earlier run any
more after as many ticks as a quiz lives. A new hall that begins at zero keeps every quiz until its
clock has come to the tick of the creation and to the end of the delay after that. -/
theorem lifetime_after_restart (settings : Settings) (hash : HashService) (keepsEvents : Bool)
    (ledger ledger' : Ledger) (clock clock' : Int) {requests more : List Request}
    (hsep : hash.Separates) (hdriven : ∀ request ∈ requests, request.IsDriven)
    (hdriven' : ∀ request ∈ more, request.IsDriven) :
    let rules := Rules.ofSettings settings hash keepsEvents
    let start := ofSettings settings ledger clock
    let last := (serve rules start requests).2
    let restarted := onStores last.stores ledger' clock'
    let final := (serve rules restarted more).2
    ∀ id quiz, last.stores.quiz? id = .ok (some quiz) →
      ∃ b, .created b ∈ deeds rules start requests ∧ b.Asks quiz ∧
        rules.derive b.sequence = .ok id ∧
        ((∀ ctx : CallContext, ctx.signer = b.ctx.signer →
            .deleted ctx b.sequence ∉ deeds rules restarted more) →
          ∃ quiz? key?, final.stores.quiz? id = .ok quiz? ∧ final.stores.key? id = .ok key? ∧
            (quiz?.isSome ↔
              ¬ (clock' < b.clock + rules.delay ∧ b.clock + rules.delay ≤ final.clock)) ∧
            (key?.isSome ↔ quiz?.isSome) ∧
            (clock' = last.clock → last.clock + rules.delay ≤ final.clock → quiz? = none) ∧
            (0 ≤ clock → clock' = 0 →
              (quiz?.isSome ↔ final.clock < b.clock + rules.delay))) := by
  intro rules start last restarted final id quiz hquiz
  have hsep' : rules.hash.Separates := hsep
  have hstart := shows_ofSettings settings ledger clock
  obtain ⟨v, hlast, h⟩ := serve_chronicle hsep' hstart (Chronicle.nil rules) requests
  obtain ⟨v', hfinal, h'⟩ := serve_chronicle hsep' (hlast.onStores ledger' clock') h more
  have hlast : last.Shows settings.places v := hlast
  have hfinal : final.Shows settings.places v' := hfinal
  have h' : Chronicle rules (deeds rules start requests ++ deeds rules restarted more)
    v'.contents := h'
  rw [hlast.stores.quiz?] at hquiz
  obtain ⟨b, hlives, rfl, hasks⟩ := h.exists_lives (Except.ok.inj hquiz)
  have hnumber := h.isU64_sequence hlives.created_mem
  refine ⟨b, hlives.created_mem, hasks, Rules.derive_of_isU64 hnumber, fun hkept => ?_⟩
  have hearlier : Driven clock (deeds rules start requests) last.clock :=
    serve_driven hstart hdriven
  have hlater : Driven clock' (deeds rules restarted more) final.clock :=
    serve_driven (hlast.onStores ledger' clock') hdriven'
  obtain ⟨hsome, hsomeKey⟩ := h'.isSome_iff_lives hsep' (List.mem_append_left _ hlives.created_mem)
  have hstored := hsome.trans (h'.lives_append_driven_iff hlives hlater hkept)
  refine ⟨_, _, hfinal.stores.quiz? _, hfinal.stores.key? _, hstored, hsomeKey.trans hsome.symm,
    fun hclock hpassed => ?_, fun hzero hclock => ?_⟩
  · obtain ⟨hle, hlt⟩ := hearlier.bounds_of_lives hlives
    refine Option.not_isSome_iff_eq_none.mp fun hsome' => hstored.mp hsome' ?_
    rw [Creation.due] at hlt ⊢
    omega
  · have hdelay := rules.one_le_delay
    have hafter : clock ≤ b.clock := hearlier.le_of_created hlives.created_mem
    rw [hstored, Creation.due]
    omega

/-- Settings under which quizzes are kept in a key space and live for one tick. -/
def persistent : Settings :=
  { (default : Settings) with
    storageBackend := .redis, deletionDelay := 1, one_le_deletionDelay := by decide }

/-- A quiz is created at the first tick. -/
def quizAtFirstTick : List Request := [.step, openQuiz]

/-- The stores that are left behind. -/
def leftBehind (hash : HashService) : Stores :=
  (serve (Rules.ofSettings persistent hash true) (ofSettings persistent) quizAtFirstTick).2.stores

/-- The creation that comes of it. -/
def creationAtFirstTick : Creation := { openQuizCreation with clock := 1 }

/-- The quiz that is stored in them. -/
def storedQuiz : Quiz := ⟨"owner", List.replicate 5 default, ⟨0, by decide⟩, rfl⟩

/-- The quiz is found under its id. -/
theorem quiz?_leftBehind : (leftBehind asCharacters).quiz?
    ((Rules.ofSettings persistent asCharacters true).idOf 1) = .ok (some storedQuiz) := by
  have hquizzes : (leftBehind asCharacters).quizzes = .redis := rfl
  have hopen : (leftBehind asCharacters).redisPool.isOpen = true := rfl
  simp only [Stores.quiz?, hquizzes, Stores.readKeys_of_isOpen hopen]
  exact KeySpace.quiz?_ofText rfl

/-- Where a quiz of an earlier hall is looked for: after some steps of a hall that was opened over
its stores at a tick. -/
def afterRestart (clock : Int) (steps : Nat) : Hall :=
  (serve (Rules.ofSettings persistent asCharacters true)
    (onStores (leftBehind asCharacters) {} clock) (List.replicate steps .step)).2

/-- A hall that takes up the clock has no quiz after one step. One that begins at zero still has it
then, and loses it with the second step. -/
theorem lifetime_after_restart_of_one_quiz :
    let id := (Rules.ofSettings persistent asCharacters true).idOf 1
    asCharacters.Separates ∧
    (∀ request ∈ quizAtFirstTick, request.IsDriven) ∧
    (∀ n : Nat, ∀ request ∈ List.replicate n Request.step, request.IsDriven) ∧
    (leftBehind asCharacters).quiz? id = .ok (some storedQuiz) ∧
    (afterRestart 1 1).stores.quiz? id = .ok none ∧
    (∃ quiz, (afterRestart 0 1).stores.quiz? id = .ok (some quiz)) ∧
    (afterRestart 0 2).stores.quiz? id = .ok none := by
  intro id
  have hdriven : ∀ request ∈ quizAtFirstTick, request.IsDriven := by
    simp [quizAtFirstTick, openQuiz, Request.IsDriven]
  have hsteps (n : Nat) : ∀ request ∈ List.replicate n Request.step, request.IsDriven := by
    intro request hmem
    rw [List.eq_of_mem_replicate hmem]
    trivial
  have hhistory : deeds (Rules.ofSettings persistent asCharacters true) (ofSettings persistent)
      quizAtFirstTick = [.fired 1] ++ [.created creationAtFirstTick] := rfl
  have hafter (clock : Int) (n : Nat) (ticks : List Int)
      (hdeeds : deeds (Rules.ofSettings persistent asCharacters true)
        (onStores (leftBehind asCharacters) {} clock) (List.replicate n .step) =
          ticks.map .fired) :
      ∃ quiz?, (afterRestart clock n).stores.quiz? id = .ok quiz? ∧
        (clock = 1 → 2 ≤ (afterRestart clock n).clock → quiz? = none) ∧
        (clock = 0 → (quiz?.isSome ↔ (afterRestart clock n).clock < 2)) := by
    obtain ⟨b, hb, -, -, h⟩ := lifetime_after_restart persistent asCharacters true {} {} 0 clock
      separates_asCharacters hdriven (hsteps n) id storedQuiz quiz?_leftBehind
    obtain rfl : b = creationAtFirstTick := by simpa [hhistory] using hb
    obtain ⟨quiz?, key?, hquiz, -, -, -, hgone, hzero⟩ := h fun ctx _ hmem => by
      obtain ⟨tick, -, htick⟩ := List.mem_map.mp (hdeeds ▸ hmem)
      cases htick
    exact ⟨quiz?, hquiz, hgone, hzero (Int.le_refl 0)⟩
  refine ⟨separates_asCharacters, hdriven, hsteps, quiz?_leftBehind, ?_, ?_, ?_⟩
  · obtain ⟨quiz?, hquiz, hgone, -⟩ := hafter 1 1 [2] rfl
    rw [hquiz, hgone rfl (by decide)]
  · obtain ⟨quiz?, hquiz, -, hzero⟩ := hafter 0 1 [1] rfl
    obtain ⟨quiz, rfl⟩ := Option.isSome_iff_exists.mp ((hzero rfl).mpr (by decide))
    exact ⟨quiz, hquiz⟩
  · obtain ⟨quiz?, hquiz, -, hzero⟩ := hafter 0 2 [1, 2] rfl
    rw [hquiz, Option.not_isSome_iff_eq_none.mp (mt (hzero rfl).mp (by decide))]

/-- It does not matter for a restart where the stores are kept: what is asked for before and after
it has the same outcomes. -/
theorem serve_onStores_congr (rules : Rules) (settings settings' : Settings)
    (before after : List Request) :
    (serve rules (onStores (serve rules (ofSettings settings) before).2.stores) after).1 =
      (serve rules (onStores (serve rules (ofSettings settings') before).2.stores) after).1 := by
  obtain ⟨outcomes, v, hbefore⟩ :=
    serve_shows rules before { contents := {}, ledger := {}, clock := 0 }
  obtain ⟨outcomes', v', hafter⟩ :=
    serve_shows rules after { contents := v.contents, ledger := {}, clock := 0 }
  have hsame (settings : Settings) :
      (serve rules (onStores (serve rules (ofSettings settings) before).2.stores) after).1 =
        outcomes' := by
    obtain ⟨last, hserve, hlast⟩ := hbefore _ _ (shows_ofSettings settings {} 0)
    obtain ⟨final, hfinal, -⟩ := hafter _ _ (hlast.onStores {} 0)
    rw [hserve, hfinal]
  rw [hsame settings, hsame settings']

/-- The same settings, with the quizzes in memory. -/
def inMemory : Settings := { persistent with storageBackend := .memory }

/-- **A quiz can outlive its delay in a hall that was opened again.** It was to live for one tick.
It is there when the program opens a hall over the stores in which it was left behind, and after one
step of that hall it is still there. -/
theorem outlives_delay_after_restart :
    let rules := Program.rules persistent
    let last := (serve rules (ofSettings persistent) quizAtFirstTick).2
    persistent.storageBackend = .redis ∧ rules.delay = 1 ∧
      (∀ request ∈ quizAtFirstTick, request.IsDriven) ∧
      (serve rules (onStores last.stores) [.quiz 1, .step, .quiz 1]).1 =
        [.ok (.quiz (some storedQuiz)), .ok (.number 1), .ok (.quiz (some storedQuiz))] := by
  intro rules last
  have hdriven : ∀ request ∈ quizAtFirstTick, request.IsDriven := by
    simp [quizAtFirstTick, openQuiz, Request.IsDriven]
  refine ⟨rfl, rfl, hdriven, ?_⟩
  rw [serve_onStores_congr rules persistent inMemory]
  decide +kernel

end Hall

end QuizHall
