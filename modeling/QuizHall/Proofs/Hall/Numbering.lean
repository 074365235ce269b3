import QuizHall.Proofs.Hall.Along
import QuizHall.Proofs.Hall.Books

/-!
# Quizzes Are Numbered One After the Other

A creation that succeeds gives the number that comes next, and no other request moves the counter. A
creation that fails gives no number, at whatever step it fails, because the counter goes last. So
the numbers that a run gives are the first ones, without a gap and without one that comes twice, and
the counter tells how many there were. This does not rest on any call being in order.

With all calls in order it is also known why a creation can fail at all. That the counter does not
grow is none of the reasons. That an id is taken is one of them, but a hash function that separates
rules it out: the id of a new quiz is that of a number which no quiz had before.

## Main definitions

* `numbersGiven`: the numbers that the creations of a run have given.
* `Counted`: what a request does to the counter.

## Main results

* `Request.ends_counted`: every request does to the counter what `Counted` says.
* `Hall.numbered_consecutively`: which numbers a run gives, and what is stored under their ids.
-/

namespace QuizHall

/-! ### The numbers that are given -/

/-- The number that a request has given to a new quiz, by its outcome. -/
def Request.given? : Request → Except Fault Answer → Option Int
  | create .., .ok (.number n) => some n
  | _, _ => none

/-- The numbers that a list of requests has given to new quizzes, in their order. -/
def numbersGiven (requests : List Request) (outcomes : List (Except Fault Answer)) : List Int :=
  (requests.zip outcomes).filterMap fun served => served.1.given? served.2

/-- The first request may give a number, and then come the others. -/
theorem numbersGiven_cons (request : Request) (rest : List Request) (outcome : Except Fault Answer)
    (outcomes : List (Except Fault Answer)) :
    numbersGiven (request :: rest) (outcome :: outcomes) =
      (request.given? outcome).toList ++ numbersGiven rest outcomes := by
  rw [numbersGiven, List.zip_cons_cons, List.filterMap_cons]
  cases request.given? outcome with
  | none => rfl
  | some n => rfl

/-- **What a request does to the counter**, by the number that it gives. -/
inductive Counted (n : Int) : Option Int → Int → Prop
  /-- No number is given, and the counter stays where it is. -/
  | stays : Counted n none n
  /-- The next number is given, and the counter moves on to it. -/
  | moves : Counted n (some (n + 1)) (n + 1)

/-- A creation counts its quiz if it succeeds. If it fails, the counter was not moved yet. -/
theorem Act.ends_create_counted (rules : Rules) (ctx : CallContext) (questions : List Question)
    (key : Answers) (gate : Json.Value) {hall : Hall} {n : Int}
    (hn : hall.stores.counter = .ok n) :
    (Request.act rules (.create ctx questions key gate)).Ends hall fun outcome after =>
      ∃ n', after.stores.counter = .ok n' ∧
        Counted n (Request.given? (.create ctx questions key gate) outcome) n' := by
  have hstays (e : Fault) {stores : Stores} (hstores : stores.counter = .ok n) :
      ∃ n', stores.counter = .ok n' ∧
        Counted n (Request.given? (.create ctx questions key gate) (.error e)) n' :=
    ⟨n, hstores, .stays⟩
  have hdelete {id : String} {before after : Stores} (h : before.deleteQuiz id = .ok after)
      (hbefore : before.counter = .ok n) : after.counter = .ok n := by
    have hframe : before.AgreeOn after .counter := Stores.agreeOn_deleteQuiz h (by simp) (by simp)
    exact Eq.trans hframe hbefore
  refine .map (.bind (.ofExcept (fun e _ => hstays e hn) fun quiz _ => .locked ?_))
  have hplace {id : String} {placed : Stores}
      (h : hall.stores.createQuiz id quiz key = .ok placed) : placed.counter = .ok n := by
    have hframe : hall.stores.AgreeOn placed .counter :=
      Stores.agreeOn_createQuiz h (by simp) (by simp)
    exact Eq.trans hframe hn
  refine .enter_next (fun e _ => hstays e hn) (fun id placed e hplaced => ?_)
    (fun _ id bucket placed stores log e _ hplaced happend _ => ?_)
    fun n' id bucket placed stores stores' events log hn' hid hplaced happend hput => ?_
  · refine .deleteQuiz (fun e' _ => hstays e' (hplace hplaced)) fun stores h => .fail ?_
    exact hstays e (hdelete h (hplace hplaced))
  · have hcounter := Stores.counter_of_scheduled hn hplaced happend
    refine .deleteQuiz (fun e' _ => hstays e' hcounter) fun stores' h => .fail ?_
    exact hstays e (hdelete h hcounter)
  · obtain rfl : n' = n := Except.ok.inj (hn'.symm.trans hn)
    obtain ⟨hmin, hmax⟩ := (Rules.derive_eq_ok_iff.mp hid).1
    have hlt : (n' + 1).natAbs < Fault.unwritable := by
      rw [u64Max] at hmax
      exact Fault.lt_unwritable (by omega)
    exact ⟨n' + 1, Stores.counter_putCounter hput hlt, .moves⟩

/-- **Every request does to the counter what `Counted` says**, in every hall in which the counter
can be read. -/
theorem Request.ends_counted (rules : Rules) (request : Request) {hall : Hall} {n : Int}
    (hn : hall.stores.counter = .ok n) :
    (request.act rules).Ends hall fun outcome after =>
      ∃ n', after.stores.counter = .ok n' ∧ Counted n (request.given? outcome) n' := by
  by_cases htouches : request.Touches .counter
  case neg =>
    refine (Request.leaves rules .counter htouches hall).imp fun outcome after hafter => ?_
    have hnone : request.given? outcome = none := by
      cases request with
      | create ctx questions key gate => exact absurd rfl htouches
      | _ => rfl
    rw [hnone]
    exact ⟨n, Eq.trans hafter hn, .stays⟩
  cases request with
  | create ctx questions key gate =>
      exact Act.ends_create_counted rules ctx questions key gate hn
  | attempt ctx sequence submission =>
      obtain ⟨account, heq⟩ := htouches
      cases heq
  | _ => exact htouches.elim

/-! ### Why creations fail -/

/-- Whatever is not meant as an id that is taken is not taken for one. -/
theorem Fault.kind_ne_alreadyExists {e : Fault} (h : e.causeKind ≠ .alreadyExists) :
    e.kind ≠ .alreadyExists := by
  rw [kind]
  split
  · exact h
  · decide

namespace Act.Yields

variable {rules : Rules} {v : View} {hall : Hall} {p : Places} {ctx : CallContext}
  {questions : List Question} {key : Answers} {gate : Json.Value}

/-- **Why a creation can fail.** It never does because the counter would not grow, and because of an
id only if something is kept under the id of the next number. -/
theorem create_fault (hshows : hall.Shows p v) {e : Fault}
    (h : ((Act.create rules ctx questions key gate).run hall).1 = .error e) :
    (∀ next latest, e ≠ .counterNotGrowing next latest) ∧
      (e.kind = .alreadyExists → ∃ id, rules.derive (v.contents.counter + 1) = .ok id ∧
        (v.contents.quizzes.contains id ∨ v.contents.keys.contains id)) := by
  have hbeyond (n : Int) : (∀ next latest, Fault.beyondU64 n ≠ .counterNotGrowing next latest) ∧
      (Fault.beyondU64 n).kind ≠ .alreadyExists :=
    ⟨by simp, Fault.kind_ne_alreadyExists (by simp [Fault.causeKind])⟩
  rcases create_refused hshows h with hquiz | hentry
  · have hkind : e.causeKind ≠ .alreadyExists ∧
        ∀ next latest, e ≠ .counterNotGrowing next latest := by
      rcases Rules.newQuiz_eq_error hquiz with rfl | rfl | rfl | ⟨issues, rfl⟩ <;>
        simp [Fault.causeKind]
    exact ⟨hkind.2, fun hexists => absurd hexists (Fault.kind_ne_alreadyExists hkind.1)⟩
  · cases hentry with
    | noNumber hid =>
        obtain rfl := Rules.eq_beyondU64_of_derive hid
        exact ⟨(hbeyond _).1, fun hexists => absurd hexists (hbeyond _).2⟩
    | noBucket hdue =>
        obtain rfl := Rules.eq_beyondU64_of_derive hdue
        exact ⟨(hbeyond _).1, fun hexists => absurd hexists (hbeyond _).2⟩
    | taken hid htaken => exact ⟨by simp, fun _ => ⟨_, hid, htaken⟩⟩

end Act.Yields

namespace Chronicle

variable {rules : Rules} {history : List Deed} {c : Contents}

/-- Nothing is kept under the id of the next number, if the hash function separates. -/
theorem free_next (h : Chronicle rules history c) (hsep : rules.hash.Separates) {id : String}
    (hid : rules.derive (c.counter + 1) = .ok id) :
    ¬ (c.quizzes.contains id ∨ c.keys.contains id) := by
  obtain ⟨hnumber, rfl⟩ := Rules.derive_eq_ok_iff.mp hid
  obtain ⟨hquiz, hkey⟩ := h.free _ fun b hlives =>
    h.idOf_ne hsep hnumber (by omega) hlives.created_mem
  simp [Table.contains, hquiz, hkey]

/-- A quiz that is stored has one number, and that is one that was given. -/
theorem existsUnique_number (h : Chronicle rules history c) (hsep : rules.hash.Separates)
    {id : String} {quiz : Quiz} (hquiz : c.quizzes.find? id = some quiz) :
    ∃! s : Int, 1 ≤ s ∧ s ≤ c.counter ∧ rules.derive s = .ok id := by
  obtain ⟨b, hlives, rfl, -⟩ := h.exists_lives hquiz
  have hnumber := h.isU64_sequence hlives.created_mem
  obtain ⟨hmin, hmax⟩ := h.numbered b hlives.created_mem
  refine ⟨b.sequence, ⟨hmin, hmax, Rules.derive_of_isU64 hnumber⟩, ?_⟩
  rintro s ⟨-, -, hs⟩
  obtain ⟨hs', hid⟩ := Rules.derive_eq_ok_iff.mp hs
  exact (Rules.idOf_inj hsep hnumber hs' hid).symm

/-- No creation finds its id taken, if the hash function separates. -/
theorem create_ne_alreadyExists {v : View} (h : Chronicle rules history v.contents)
    (hsep : rules.hash.Separates) {hall : Hall} {p : Places} (hshows : hall.Shows p v)
    {ctx : CallContext} {questions : List Question} {key : Answers} {gate : Json.Value} {e : Fault}
    (hfails : ((Act.create rules ctx questions key gate).run hall).1 = .error e) :
    e.kind ≠ .alreadyExists := by
  intro hkind
  obtain ⟨id, hid, htaken⟩ := (Act.Yields.create_fault hshows hfails).2 hkind
  exact h.free_next hsep hid htaken

end Chronicle

namespace Hall

/-- Who asks for the latest number is given what the counter reads, as it is in the view. -/
theorem Shows.run_counter {hall : Hall} {p : Places} {v : View} (h : hall.Shows p v) {n : Int}
    (hn : hall.stores.counter = .ok n) :
    (Act.counter.run hall).1 = .ok n ∧ v.contents.counter = n := by
  have hcounter := h.stores.counter h.inRange
  refine ⟨?_, Except.ok.inj (hcounter.symm.trans hn)⟩
  rw [(Act.Yields.counter v).outcome_eq h, ← hcounter, hn]

/-! ### Runs -/

/-- **A run gives the numbers that come next**, and the counter tells how many were given so far. -/
theorem serve_counted (rules : Rules) {hall : Hall} {n : Nat}
    (hn : hall.stores.counter = .ok (n : Int)) (requests : List Request) :
    ∃ m : Nat, n ≤ m ∧ (serve rules hall requests).2.stores.counter = .ok (m : Int) ∧
      firstNumbers n ++ numbersGiven requests (serve rules hall requests).1 = firstNumbers m := by
  induction requests generalizing hall n with
  | nil => exact ⟨n, Nat.le_refl n, hn, List.append_nil _⟩
  | cons request rest ih =>
      obtain ⟨n', hn', hcounted⟩ := request.ends_counted rules hn
      have hcons := numbersGiven_cons request rest ((request.act rules).run hall).1
        (serve rules ((request.act rules).run hall).2 rest).1
      generalize hgiven : request.given? ((request.act rules).run hall).1 = given at hcounted hcons
      cases hcounted with
      | stays =>
          obtain ⟨m, hle, hm, hnumbers⟩ := ih hn'
          refine ⟨m, hle, hm, ?_⟩
          rw [← hnumbers]
          exact congrArg (firstNumbers n ++ ·) hcons
      | moves =>
          obtain ⟨m, hle, hm, hnumbers⟩ := ih (n := n + 1) hn'
          refine ⟨m, by omega, hm, ?_⟩
          rw [← hnumbers, firstNumbers_succ, List.append_assoc]
          exact congrArg (firstNumbers n ++ ·) hcons

/-- **Quizzes are numbered one after the other.** A run over empty stores gives the first numbers to
its quizzes, in their order. The counter is always at the latest of them, and so tells how many
there are; it never moves back, and no creation fails because it would not grow.

If the hash function separates, no creation fails because its id is taken, and every quiz that is
stored is found under the id of just one of the numbers that were given.

The numbers and the counter do not depend on any call being in order: they are the same whatever
fails, and where it does. -/
theorem numbered_consecutively (settings : Settings) (hash : HashService) (keepsEvents : Bool)
    (ledger : Ledger) (clock : Int) (requests : List Request) :
    let rules := Rules.ofSettings settings hash keepsEvents
    let start := ofSettings settings ledger clock
    (let (outcomes, last) := serve rules start requests
      ∃ n : Nat, numbersGiven requests outcomes = firstNumbers n ∧
        (Act.counter.run last).1 = .ok (n : Int) ∧
        (∀ more, ∃ m : Nat, n ≤ m ∧
          (Act.counter.run (serve rules last more).2).1 = .ok (m : Int)) ∧
        (∀ ctx questions key gate next latest,
          ((Act.create rules ctx questions key gate).run last).1 ≠
            .error (.counterNotGrowing next latest)) ∧
        (hash.Separates →
          (∀ ctx questions key gate e,
            ((Act.create rules ctx questions key gate).run last).1 = .error e →
              e.kind ≠ .alreadyExists) ∧
          ∀ id quiz, last.stores.quiz? id = .ok (some quiz) →
            ∃! s : Int, 1 ≤ s ∧ s ≤ n ∧ rules.derive s = .ok id)) ∧
    ∀ outages : Table Call FaultKind,
      let (outcomes, last) := serve rules { start with outages } requests
      ∃ n : Nat, numbersGiven requests outcomes = firstNumbers n ∧
        last.stores.counter = .ok (n : Int) ∧
        (∀ more, ∃ m : Nat, n ≤ m ∧ (serve rules last more).2.stores.counter = .ok (m : Int)) ∧
        ∃ stores, last.stores.putCounter (n + 1) = .ok stores := by
  intro rules start
  have hshows : start.Shows settings.places { contents := {}, ledger, clock } :=
    shows_ofSettings settings ledger clock
  have hzero : start.stores.counter = .ok ((0 : Nat) : Int) :=
    hshows.stores.counter hshows.inRange
  refine ⟨?_, fun outages => ?_⟩
  · obtain ⟨n, -, hn, hnumbers⟩ := serve_counted rules hzero requests
    obtain ⟨v, hv⟩ := hshows.serve rules requests
    refine ⟨n, hnumbers, (hv.run_counter hn).1, ?_, ?_, ?_⟩
    · intro more
      obtain ⟨m, hle, hm, -⟩ := serve_counted rules hn more
      obtain ⟨v', hv'⟩ := hv.serve rules more
      exact ⟨m, hle, (hv'.run_counter hm).1⟩
    · intro ctx questions key gate next latest hfails
      exact (Act.Yields.create_fault hv hfails).1 next latest rfl
    · intro hsep
      have hsep' : rules.hash.Separates := hsep
      obtain ⟨v', hv', hchronicle⟩ := serve_chronicle hsep' hshows (.nil rules) requests
      refine ⟨fun _ _ _ _ e => hchronicle.create_ne_alreadyExists hsep' hv', ?_⟩
      intro id quiz hquiz
      have hfind : v'.contents.quizzes.find? id = some quiz :=
        Except.ok.inj ((hv'.stores.quiz? id).symm.trans hquiz)
      rw [← (hv'.run_counter hn).2]
      exact hchronicle.existsUnique_number hsep' hfind
  · have hzero' : ({ start with outages } : Hall).stores.counter = .ok ((0 : Nat) : Int) := hzero
    obtain ⟨n, -, hn, hnumbers⟩ := serve_counted rules hzero' requests
    refine ⟨n, hnumbers, hn, fun more => ?_, Stores.exists_putCounter hn (Int.lt_succ n)⟩
    obtain ⟨m, hle, hm, -⟩ := serve_counted rules hn more
    exact ⟨m, hle, hm⟩

/-- A quiz that can just be scheduled, and one that comes a tick too late for that. -/
def twoLateQuizzes : List Request := [openQuiz, .advance, openQuiz]

/-- The hall in which the two are asked for. -/
def afterTwoLateQuizzes : Hall :=
  (serve (Rules.ofSettings default asCharacters true) (ofSettings default {} (u64Max - 10))
    twoLateQuizzes).2

/-- The second quiz is taken out of the stores again, and its number is still to be given. -/
theorem numbered_consecutively_twoLateQuizzes :
    asCharacters.Separates ∧
    numbersGiven twoLateQuizzes (serve (Rules.ofSettings default asCharacters true)
      (ofSettings default {} (u64Max - 10)) twoLateQuizzes).1 = [1] ∧
    ∃ n : Nat, (Act.counter.run afterTwoLateQuizzes).1 = .ok (n : Int) ∧ firstNumbers n = [1] ∧
      (∃ id quiz, afterTwoLateQuizzes.stores.quiz? id = .ok (some quiz) ∧
        ∃! s : Int, 1 ≤ s ∧ s ≤ n ∧
          (Rules.ofSettings default asCharacters true).derive s = .ok id) := by
  have hgiven : numbersGiven twoLateQuizzes (serve (Rules.ofSettings default asCharacters true)
      (ofSettings default {} (u64Max - 10)) twoLateQuizzes).1 = [1] := rfl
  obtain ⟨⟨n, hnumbers, hcounter, -, -, hrest⟩, -⟩ :=
    numbered_consecutively default asCharacters true {} (u64Max - 10) twoLateQuizzes
  obtain ⟨-, hunique⟩ := hrest separates_asCharacters
  refine ⟨separates_asCharacters, hgiven, n, hcounter, hnumbers.symm.trans hgiven, ?_⟩
  exact ⟨(Rules.ofSettings default asCharacters true).idOf 1, _, rfl, hunique _ _ rfl⟩

end Hall

end QuizHall
