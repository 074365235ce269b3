import QuizHall.Proofs.Hall.Chronicle

/-!
# The Lifetime of a Quiz

A quiz can be seen from its creation until its owner deletes it or the tick is fired at which it
falls due, and at no other time. While it can be seen it is what was asked for when it was created,
and its key is stored beside it. Once it is gone it never comes back: nobody can attempt or delete
it any more, and nothing more is published about it.

All of this holds whatever else happens in between, and however often ticks are fired that have
been fired before or that are not due yet. It rests on the invariant of `Chronicle`.

## Main results

* `lifetime`: when a quiz can be seen, what is seen then, and what happens after it is gone.
-/

namespace QuizHall

/-- **An attempt is published only of a quiz that is stored.** -/
theorem Served.scored {rules : Rules} {v v' : View} {request : Request}
    {outcome : Except Fault Answer} (h : Served rules v request outcome v') :
    ∃ events, v'.events = v.events ++ events ∧
      ∀ sequence account score, .scored sequence account score ∈ events →
        IsU64 sequence ∧ ∃ quiz, v.contents.quizzes.find? (rules.idOf sequence) = some quiz := by
  have hnothing : ∃ events, v.events = v.events ++ events ∧
      ∀ sequence account score, Event.scored sequence account score ∈ events →
        IsU64 sequence ∧ ∃ quiz, v.contents.quizzes.find? (rules.idOf sequence) = some quiz :=
    ⟨[], (List.append_nil v.events).symm, fun _ _ _ hmem => absurd hmem List.not_mem_nil⟩
  have hdeletions {ticks : List Int} {sequence score : Int} {account : String}
      (hmem : Event.scored sequence account score ∈ ticks.map Event.deleted) : False := by
    simp at hmem
  cases h with
  | create hcreated =>
      cases hcreated with
      | refused e => exact hnothing
      | entered hquiz hentered =>
          cases hentered with
          | refused e log => exact hnothing
          | done _ _ _ _ log =>
              refine ⟨_, rfl, fun sequence account score hmem => ?_⟩
              cases List.mem_singleton.mp (Rules.mem_of_mem_kept hmem)
  | attempt hattempted =>
      cases hattempted with
      | refused e => exact hnothing
      | @done _ _ quiz _ _ _ hid hquiz _ _ _ _ log =>
          refine ⟨_, rfl, fun sequence account score hmem => ?_⟩
          have hevent := List.mem_singleton.mp (Rules.mem_of_mem_kept hmem)
          obtain ⟨rfl, -, -⟩ := Event.scored.inj hevent
          obtain ⟨hnumber, rfl⟩ := Rules.derive_eq_ok_iff.mp hid
          exact ⟨hnumber, quiz, hquiz⟩
  | delete hdeleted =>
      cases hdeleted with
      | refused e => exact hnothing
      | done _ _ _ log => exact hnothing
  | tick hfired =>
      obtain ⟨ticks, hticks⟩ := hfired.events
      exact ⟨_, hticks, fun _ _ _ hmem => (hdeletions hmem).elim⟩
  | advance => exact hnothing
  | step hstepped =>
      obtain ⟨ticks, hticks⟩ := hstepped.loses.events
      exact ⟨_, hticks, fun _ _ _ hmem => (hdeletions hmem).elim⟩
  | loop hlooped log =>
      obtain ⟨ticks, hticks⟩ := hlooped.loses.events
      exact ⟨_, hticks, fun _ _ _ hmem => (hdeletions hmem).elim⟩
  | quiz sequence => exact hnothing
  | rating account => exact hnothing
  | latest => exact hnothing
  | pending due => exact hnothing

namespace Hall

/-- The absence of a quiz can be told under every number of 64 bits. -/
theorem kind_noQuiz {s : Int} (hs : IsU64 s) : (Fault.noQuiz s).kind = .quizNotFound := by
  have hlt : s.natAbs < Fault.unwritable := by
    obtain ⟨hmin, hmax⟩ := hs
    rw [u64Max] at hmax
    exact Fault.lt_unwritable (by omega)
  refine Fault.kind_of_isSayable ?_
  simpa [Fault.isSayable, Fault.numbers] using hlt

/-- After a quiz is gone, a run publishes no attempt of it. -/
theorem serve_gone {rules : Rules} {hall : Hall} {p : Places} {v : View} {history : List Deed}
    {b : Creation} (hsep : rules.hash.Separates) (hshows : hall.Shows p v)
    (h : Chronicle rules history v.contents) (hb : .created b ∈ history)
    (hgone : ¬ Lives rules history b) (requests : List Request) :
    ∃ events, (serve rules hall requests).2.events = hall.events ++ events ∧
      ∀ account score, .scored b.sequence account score ∉ events := by
  induction requests generalizing hall v history with
  | nil => exact ⟨[], (List.append_nil hall.events).symm, fun _ _ => List.not_mem_nil⟩
  | cons request rest ih =>
      obtain ⟨outcome, v', hact, hserved⟩ := Act.Yields.serves rules request v
      obtain ⟨hall', hrun, hshows'⟩ := hact p hall hshows
      have hnext := h.served hsep hserved
      have hb' := List.mem_append_left (request.deeds v.clock v'.clock outcome) hb
      have hgone' := hnext.gone_append hb hgone
      obtain ⟨more, hmore, hnone'⟩ := ih hshows' hnext hb' fun hlives => hgone' b hlives rfl
      obtain ⟨events, hevents, hscored⟩ := hserved.scored
      refine ⟨events ++ more, ?_, fun account score hmem => ?_⟩
      · rw [serve, hrun]
        simp only [hmore]
        rw [hshows'.events, hevents, hshows.events, List.append_assoc]
      · rcases List.mem_append.mp hmem with hmem | hmem
        · -- Whoever is scored has a stored quiz before, and this one has none.
          obtain ⟨hs, quiz, hquiz⟩ := hscored _ account score hmem
          have hgone₀ : ∀ b', Lives rules history b' → b'.sequence ≠ b.sequence := by
            rintro b' hlives heq
            obtain rfl := h.unique hlives.created_mem hb heq
            exact hgone hlives
          rw [(h.find?_of_gone hsep hs hgone₀).1] at hquiz
          cases hquiz
        · exact hnone' account score hmem

/-- **The lifetime of a quiz.** After every run from empty stores a quiz can be seen under a number
just if it lives: it was created under that number, and since then its owner has not deleted it and
the tick at which it falls due has not been fired. What is seen is what was asked for, and the key
beside it is the one that was given. Where no quiz lives, neither a quiz nor a key is seen.

Once a quiz is gone it stays gone, whatever is asked for after that. Everybody who signs an attempt
or a deletion of it is told that there is no such quiz, and no attempt of it is published. -/
theorem lifetime (settings : Settings) (hash : HashService) (keepsEvents : Bool) (ledger : Ledger)
    (clock : Int) (requests : List Request) {s : Int} (hsep : hash.Separates) (hs : IsU64 s) :
    let rules := Rules.ofSettings settings hash keepsEvents
    let start := ofSettings settings ledger clock
    let last := (serve rules start requests).2
    let history := deeds rules start requests
    let quizIn := fun hall : Hall => ((Act.getQuiz rules s).run hall).1
    let keyIn := fun hall : Hall => ((Act.getKey rules s).run hall).1
    ((∃ quiz, quizIn last = .ok (some quiz)) ↔ ∃ b, Lives rules history b ∧ b.sequence = s) ∧
    (∀ b quiz, Lives rules history b → b.sequence = s → quizIn last = .ok (some quiz) →
      b.Asks quiz ∧ keyIn last = .ok (some b.key)) ∧
    ((∀ b, Lives rules history b → b.sequence ≠ s) →
      quizIn last = .ok none ∧ keyIn last = .ok none) ∧
    ∀ b, .created b ∈ history → b.sequence = s → ¬ Lives rules history b →
      ∀ more : List Request,
        let final := (serve rules last more).2
        quizIn final = .ok none ∧ keyIn final = .ok none ∧
        (∀ ctx account, ctx.signer = some account → account ≠ "" →
          (∀ submission, ∃ fault,
            ((Act.attempt rules ctx s submission).run final).1 = .error fault ∧
              fault.kind = .quizNotFound) ∧
          ∃ fault, ((Act.delete rules ctx s).run final).1 = .error fault ∧
            fault.kind = .quizNotFound) ∧
        ∃ events, final.events = last.events ++ events ∧
          ∀ account score, .scored s account score ∉ events := by
  intro rules start last history quizIn keyIn
  have hsep' : rules.hash.Separates := hsep
  obtain ⟨v, hshows, h⟩ := serve_chronicle hsep' (shows_ofSettings settings ledger clock)
    (Chronicle.nil rules) requests
  rw [List.nil_append] at h
  have hquiz : quizIn last = .ok (v.contents.quizzes.find? (rules.idOf s)) :=
    (Act.Yields.getQuiz hs v).outcome_eq hshows
  have hkey : keyIn last = .ok (v.contents.keys.find? (rules.idOf s)) :=
    (Act.Yields.getKey hs v).outcome_eq hshows
  refine ⟨⟨?_, ?_⟩, ?_, ?_, ?_⟩
  · rintro ⟨quiz, hsome⟩
    by_contra hgone
    have hnone := (h.find?_of_gone hsep' hs fun b hlives heq => hgone ⟨b, hlives, heq⟩).1
    rw [hquiz, hnone] at hsome
    cases hsome
  · rintro ⟨b, hlives, rfl⟩
    obtain ⟨⟨quiz, hstored, -⟩, -⟩ := h.stored b hlives
    exact ⟨quiz, by rw [hquiz, hstored]⟩
  · rintro b quiz hlives rfl hsome
    obtain ⟨⟨quiz', hstored, hasks⟩, hstoredKey⟩ := h.stored b hlives
    rw [hquiz, hstored] at hsome
    obtain rfl := Option.some.inj (Except.ok.inj hsome)
    exact ⟨hasks, by rw [hkey, hstoredKey]⟩
  · intro hgone
    obtain ⟨hnoQuiz, hnoKey⟩ := h.find?_of_gone hsep' hs hgone
    exact ⟨by rw [hquiz, hnoQuiz], by rw [hkey, hnoKey]⟩
  · rintro b hb rfl hgone more final
    obtain ⟨v', hshows', h'⟩ := serve_chronicle hsep' hshows h more
    obtain ⟨hnoQuiz, hnoKey⟩ := h'.find?_of_gone hsep' hs (h'.gone_append hb hgone)
    have hkind := kind_noQuiz hs
    refine ⟨?_, ?_, fun ctx account hsigner hne => ?_, ?_⟩
    · exact ((Act.Yields.getQuiz hs v').outcome_eq hshows').trans (congrArg _ hnoQuiz)
    · exact ((Act.Yields.getKey hs v').outcome_eq hshows').trans (congrArg _ hnoKey)
    · have hsender := CallContext.sender_eq_ok_iff.mpr ⟨hsigner, hne⟩
      have hid : rules.derive b.sequence = .ok _ := Rules.derive_of_isU64 hs
      refine ⟨fun submission => ⟨_, ?_, hkind⟩, _, ?_, hkind⟩
      · exact (Act.Yields.attempt_missing hsender hid hnoQuiz submission).outcome_eq hshows'
      · exact (Act.Yields.delete_missing hsender hid hnoQuiz).outcome_eq hshows'
    · exact serve_gone hsep' hshows h hb hgone more

/-- The first quiz can be seen until the tenth tick, and cannot be seen after it. -/
theorem lifetime_of_first_quiz :
    asCharacters.Separates ∧ IsU64 1 ∧
    (∃ quiz, ((Act.getQuiz (Rules.ofSettings {} asCharacters true) 1).run
      (serve (Rules.ofSettings {} asCharacters true) (ofSettings {}) [openQuiz]).2).1 =
        .ok (some quiz)) ∧
    ((Act.getQuiz (Rules.ofSettings {} asCharacters true) 1).run
      (serve (Rules.ofSettings {} asCharacters true) (ofSettings {}) [openQuiz, .tick 10]).2).1 =
        .ok none := by
  have hone : IsU64 1 := by decide
  refine ⟨separates_asCharacters, hone, ?_, ?_⟩
  · have hlives : Lives (Rules.ofSettings {} asCharacters true)
        (deeds (Rules.ofSettings {} asCharacters true) (ofSettings {}) [openQuiz])
        openQuizCreation := ⟨[], [], rfl, by simp⟩
    exact (lifetime {} asCharacters true {} 0 [openQuiz] separates_asCharacters hone).1.mpr
      ⟨openQuizCreation, hlives, rfl⟩
  · refine ((lifetime {} asCharacters true {} 0 [openQuiz, .tick 10] separates_asCharacters
      hone).2.2.1 ?_).1
    rintro b hlives -
    have hhistory : deeds (Rules.ofSettings {} asCharacters true) (ofSettings {})
        [openQuiz, .tick 10] = [.created openQuizCreation] ++ [.fired 10] := rfl
    rw [hhistory] at hlives
    obtain ⟨hlives, hend⟩ | heq := lives_append_singleton.mp hlives
    · obtain heq := Deed.created.inj (List.mem_singleton.mp hlives.created_mem)
      rw [heq] at hend
      exact hend rfl
    · cases heq

end Hall

end QuizHall
