import Mathlib.Data.List.Induction
import QuizHall.Proofs.Hall.Serving

/-!
# The History of a Run

A history is a list of deeds: quizzes that were created, deletions by owners that succeeded, and
ticks that were fired. It is read off the requests of a run, their outcomes and the clock, and
nothing in it comes from the stores. So a history can serve as the measure of what the stores hold.

A quiz **lives** after a history if it was created in it and nothing after that has ended it. It
**waits** if it was created and the tick at which it falls due has not been fired since. A quiz
that its owner deleted can go on waiting.

## Main results

* `lives_append_singleton`: who lives after one more deed.
* `mem_waiting_of_lives`: who lives also waits.
-/

namespace QuizHall

/-! ### Deeds -/

/-- The creation of a quiz: the call that asked for it, the number that it got, and the tick at
which it was made. -/
structure Creation where
  /-- The number of the quiz. -/
  sequence : Int
  /-- The signature under the call. -/
  ctx : CallContext
  /-- The questions that were given. -/
  questions : List Question
  /-- The key that was given. -/
  key : Answers
  /-- The gate that was given. -/
  gate : Json.Value
  /-- The tick at which the quiz was created. -/
  clock : Int

/-- What can happen to quizzes. -/
inductive Deed where
  /-- A quiz is created. -/
  | created (creation : Creation)
  /-- A caller deletes the quiz of a number. -/
  | deleted (ctx : CallContext) (sequence : Int)
  /-- A tick is fired. -/
  | fired (tick : Int)

/-- The ticks that are fired while the clock goes from one tick to another. -/
def firings (before after : Int) : List Deed :=
  (List.range (after - before).toNat).map fun i : Nat => .fired (before + 1 + i)

/-- The deeds of a request, by its outcome and by the clock before and after it. -/
def Request.deeds (before after : Int) : Request → Except Fault Answer → List Deed
  | create ctx questions key gate, .ok (.number n) =>
    [.created ⟨n, ctx, questions, key, gate, before⟩]
  | delete ctx sequence, .ok _ => [.deleted ctx sequence]
  | tick now, _ => [.fired now]
  | step, _ => firings before after
  | loop .., _ => firings before after
  | _, _ => []

/-- The deeds of a list of requests, in their order. -/
def Hall.deeds (rules : Rules) (hall : Hall) : List Request → List Deed
  | [] => []
  | request :: rest =>
    let (outcome, hall') := (request.act rules).run hall
    request.deeds hall.clock hall'.clock outcome ++ Hall.deeds rules hall' rest

/-- No tick is fired while the clock stands still. -/
theorem firings_self (t : Int) : firings t t = [] := by
  rw [firings, Int.sub_self]
  rfl

/-- The ticks of a way are those of its first step and those of the rest. -/
theorem firings_cons {t t' : Int} (h : t < t') :
    firings t t' = .fired (t + 1) :: firings (t + 1) t' := by
  have hlength : (t' - t).toNat = (t' - (t + 1)).toNat + 1 := by omega
  rw [firings, firings, hlength, List.range_succ_eq_map, List.map_cons, List.map_map]
  refine congrArg₂ List.cons (congrArg Deed.fired (by simp)) (List.map_congr_left fun i _ => ?_)
  refine congrArg Deed.fired ?_
  push_cast
  omega

/-- The creation that a deed is, if it is one. -/
def Deed.creation? : Deed → Option Creation
  | .created c => some c
  | .deleted .. => none
  | .fired _ => none

/-- The creations in a history, in their order. -/
def creations (history : List Deed) : List Creation := history.filterMap Deed.creation?

/-- The creations in a history that goes on. -/
theorem creations_append (history more : List Deed) :
    creations (history ++ more) = creations history ++ creations more :=
  List.filterMap_append

/-- A deed that creates nothing adds no creation. -/
theorem creations_append_singleton {history : List Deed} {d : Deed} (hd : d.creation? = none) :
    creations (history ++ [d]) = creations history := by
  rw [creations_append, creations, creations, List.filterMap_cons_none hd, List.filterMap_nil,
    List.append_nil]

/-- The creations in a history are those of its deeds that create. -/
theorem mem_creations {history : List Deed} {c : Creation} :
    c ∈ creations history ↔ .created c ∈ history := by
  rw [creations, List.mem_filterMap]
  constructor
  · rintro ⟨d, hd, hc⟩
    cases d with
    | created c' => rwa [← Option.some.inj hc]
    | deleted ctx sequence => cases hc
    | fired tick => cases hc
  · exact fun h => ⟨.created c, h, rfl⟩

/-! ### Who lives -/

namespace Creation

/-- The tick at which a quiz falls due. -/
def due (rules : Rules) (c : Creation) : Int := c.clock + rules.delay

/-- A deed **ends** a quiz if it is the deletion by its owner, or fires the tick at which the quiz
falls due. -/
def EndedBy (rules : Rules) (c : Creation) : Deed → Prop
  | .created _ => False
  | .deleted ctx sequence => sequence = c.sequence ∧ ctx.signer = c.ctx.signer
  | .fired tick => tick = c.due rules

/-- A quiz is what a creation **asks** for if it belongs to the signer of the call and has the
questions and the gate that were given. -/
structure Asks (c : Creation) (quiz : Quiz) : Prop where
  /-- The signer is the owner. -/
  owner : c.ctx.signer = some quiz.owner
  /-- The questions are those of the call, in their order. -/
  questions : quiz.questions = c.questions
  /-- The gate is that of the call. -/
  gate : Rule.byte c.gate = .accepted quiz.gate

end Creation

/-- A quiz **lives** after a history if nothing has ended it since its creation. -/
def Lives (rules : Rules) (history : List Deed) (c : Creation) : Prop :=
  ∃ earlier later, history = earlier ++ .created c :: later ∧ ∀ d ∈ later, ¬ c.EndedBy rules d

/-- Nobody lives before anything has happened. -/
theorem not_lives_nil (rules : Rules) (c : Creation) : ¬ Lives rules [] c := by
  rintro ⟨earlier, later, h, -⟩
  exact absurd h (by simp)

/-- **Who lives after one more deed**: who lived before and is not ended by it, and who is created
by it. -/
theorem lives_append_singleton {rules : Rules} {history : List Deed} {d : Deed} {c : Creation} :
    Lives rules (history ++ [d]) c ↔
      (Lives rules history c ∧ ¬ c.EndedBy rules d) ∨ d = .created c := by
  constructor
  · rintro ⟨earlier, later, h, hlater⟩
    rcases List.eq_nil_or_concat later with rfl | ⟨later', d', rfl⟩
    · exact .inr (List.append_inj_right' h rfl |> List.singleton_inj.mp)
    · rw [List.concat_eq_append] at h hlater
      have hsplit : history ++ [d] = (earlier ++ .created c :: later') ++ [d'] := by
        rw [h, List.append_assoc, List.cons_append]
      have hhistory := List.append_inj_left' hsplit rfl
      have hd := List.singleton_inj.mp (List.append_inj_right' hsplit rfl)
      refine .inl ⟨⟨earlier, later', hhistory, fun e he => hlater e (by simp [he])⟩, ?_⟩
      rw [hd]
      exact hlater d' (by simp)
  · rintro (⟨⟨earlier, later, rfl, hlater⟩, hd⟩ | rfl)
    · refine ⟨earlier, later ++ [d], by simp, fun e he => ?_⟩
      rcases List.mem_append.mp he with he | he
      · exact hlater e he
      · rw [List.mem_singleton.mp he]
        exact hd
    · exact ⟨history, [], rfl, by simp⟩

/-- Who lives after more has happened lived before, or was created since. -/
theorem lives_or_created {rules : Rules} {history more : List Deed} {c : Creation}
    (h : Lives rules (history ++ more) c) : Lives rules history c ∨ .created c ∈ more := by
  induction more using List.reverseRecOn with
  | nil => exact .inl (by simpa using h)
  | append_singleton more d ih =>
      rw [← List.append_assoc] at h
      rcases lives_append_singleton.mp h with ⟨hlives, -⟩ | rfl
      · exact (ih hlives).imp_right (List.mem_append_left _)
      · exact .inr (by simp)

/-- Who lives was created. -/
theorem Lives.created_mem {rules : Rules} {history : List Deed} {c : Creation}
    (h : Lives rules history c) : .created c ∈ history := by
  obtain ⟨earlier, later, rfl, -⟩ := h
  simp

/-! ### Who waits -/

/-- The creations that wait after one more deed. -/
def Rules.waitAfter (rules : Rules) (waiting : List Creation) : Deed → List Creation
  | .created c => waiting ++ [c]
  | .deleted .. => waiting
  | .fired tick => waiting.filter fun c => c.due rules ≠ tick

/-- The creations that **wait** after a history, in their order: the tick at which they fall due
has not been fired since. -/
def Rules.waiting (rules : Rules) (history : List Deed) : List Creation :=
  history.foldl rules.waitAfter []

/-- Who waits after one more deed. -/
theorem waiting_append_singleton (rules : Rules) (history : List Deed) (d : Deed) :
    rules.waiting (history ++ [d]) = rules.waitAfter (rules.waiting history) d := by
  rw [Rules.waiting, List.foldl_append]
  rfl

/-- Who waits was created, and those who wait are in the order of their creation. -/
theorem waiting_sublist (rules : Rules) (history : List Deed) :
    (rules.waiting history).Sublist (creations history) := by
  induction history using List.reverseRecOn with
  | nil => exact .slnil
  | append_singleton history d ih =>
      rw [waiting_append_singleton, creations_append]
      cases d with
      | created c => exact ih.append (.refl [c])
      | deleted ctx sequence => exact ih.trans (List.sublist_append_left _ _)
      | fired tick =>
          exact (List.filter_sublist.trans ih).trans (List.sublist_append_left _ _)

/-- Who waits was created. -/
theorem created_mem_of_mem_waiting {rules : Rules} {history : List Deed} {c : Creation}
    (h : c ∈ rules.waiting history) : .created c ∈ history :=
  mem_creations.mp ((waiting_sublist rules history).subset h)

/-- **Who lives also waits.** The bucket of a quiz that lives has not been fired. -/
theorem mem_waiting_of_lives {rules : Rules} {history : List Deed} {c : Creation}
    (h : Lives rules history c) : c ∈ rules.waiting history := by
  induction history using List.reverseRecOn with
  | nil => exact absurd h (not_lives_nil rules c)
  | append_singleton history d ih =>
      rw [waiting_append_singleton]
      rcases lives_append_singleton.mp h with ⟨hlives, hend⟩ | rfl
      · cases d with
        | created c' => exact List.mem_append_left _ (ih hlives)
        | deleted ctx sequence => exact ih hlives
        | fired tick =>
            refine List.mem_filter.mpr ⟨ih hlives, decide_eq_true ?_⟩
            exact fun hdue => hend hdue.symm
      · exact List.mem_append_right _ (by simp)

/-! ### A first quiz -/

/-- The answers that choose the first option of every question. -/
def firstOptions : Answers :=
  let first : Fin 256 := ⟨1, by decide⟩
  ⟨first, first, first, first, first⟩

/-- A quiz of five empty questions that everybody may attempt. -/
def openQuiz : Request :=
  .create ⟨some "owner"⟩ (List.replicate 5 default) firstOptions (.int 0)

/-- The creation that comes of it in a new hall. -/
def openQuizCreation : Creation :=
  ⟨1, ⟨some "owner"⟩, List.replicate 5 default, firstOptions, .int 0, 0⟩

end QuizHall
