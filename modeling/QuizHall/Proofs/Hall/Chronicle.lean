import Mathlib.Data.List.Nodup
import QuizHall.Proofs.Hall.History
import QuizHall.Proofs.Identifier

/-!
# What the Stores Tell About the Past

`Chronicle` is the invariant that ties what is stored to the whole history of a run. Quizzes are
numbered in the order of their creation. Just the quizzes that live are stored, each with the key
that belongs to it. Every bucket holds the ids of the quizzes that wait in it, in the order of
their creation, whether they live or not.

Two kinds of ids are told apart here that are never told apart in the stores. The id of a quiz and
the id of a bucket can be the same text, since both come from numbers; this does no harm because a
bucket is never looked up among quizzes. What would do harm is that the ids of two quizzes
coincide, which is where it matters that the hash function separates.

## Main results

* `Chronicle.created`, `Chronicle.ended`: a deed keeps the invariant, be it one that creates or not.
* `Chronicle.deleted`, `Chronicle.fired`: the deeds that create nothing are of this kind.
* `Chronicle.served`: every request keeps the invariant.
* `Hall.serve_chronicle`: every run keeps the invariant.
-/

namespace QuizHall

/-- **What the stores tell about the past.** -/
structure Chronicle (rules : Rules) (history : List Deed) (c : Contents) : Prop where
  /-- The counter is at a number of 64 bits. -/
  counter : IsU64 c.counter
  /-- Quizzes are numbered from one up to the counter. -/
  numbered : ∀ b, .created b ∈ history → 1 ≤ b.sequence ∧ b.sequence ≤ c.counter
  /-- Every quiz falls due at a tick that has a bucket. -/
  due : ∀ b, .created b ∈ history → IsU64 (b.due rules)
  /-- A later quiz has a greater number. -/
  ordered : (creations history).Pairwise fun b b' => b.sequence < b'.sequence
  /-- A quiz that lives is stored as it was asked for, with its key. -/
  stored : ∀ b, Lives rules history b →
    (∃ quiz, c.quizzes.find? (rules.idOf b.sequence) = some quiz ∧ b.Asks quiz) ∧
      c.keys.find? (rules.idOf b.sequence) = some b.key
  /-- Neither a quiz nor a key is stored under an id that no living quiz has. -/
  free : ∀ id, (∀ b, Lives rules history b → rules.idOf b.sequence ≠ id) →
    c.quizzes.find? id = none ∧ c.keys.find? id = none
  /-- A bucket holds the ids of the quizzes that wait in it. -/
  buckets : ∀ bucket, c.bucket bucket =
    ((rules.waiting history).filter fun b => rules.idOf (b.due rules) = bucket).map
      fun b => rules.idOf b.sequence

namespace Chronicle

variable {rules : Rules} {history : List Deed} {c : Contents} {v v' : View}

/-- The number of a quiz has 64 bits. -/
theorem isU64_sequence (h : Chronicle rules history c) {b : Creation}
    (hb : .created b ∈ history) : IsU64 b.sequence := by
  obtain ⟨hmin, hmax⟩ := h.numbered b hb
  obtain ⟨-, hle⟩ := h.counter
  exact ⟨by omega, by omega⟩

/-- No number is given twice. -/
theorem unique (h : Chronicle rules history c) {b b' : Creation} (hb : .created b ∈ history)
    (hb' : .created b' ∈ history) (heq : b.sequence = b'.sequence) : b = b' := by
  have hnodup : ((creations history).map Creation.sequence).Nodup :=
    List.pairwise_map.mpr (h.ordered.imp Int.ne_of_lt)
  exact List.inj_on_of_nodup_map hnodup (mem_creations.mpr hb) (mem_creations.mpr hb') heq

/-- Quizzes with the same id are the same. -/
theorem eq_of_idOf (h : Chronicle rules history c) (hsep : rules.hash.Separates) {b b' : Creation}
    (hb : .created b ∈ history) (hb' : .created b' ∈ history)
    (hid : rules.idOf b.sequence = rules.idOf b'.sequence) : b = b' :=
  h.unique hb hb' (Rules.idOf_inj hsep (h.isU64_sequence hb) (h.isU64_sequence hb') hid)

/-- Empty stores tell that nothing has happened. -/
theorem nil (rules : Rules) : Chronicle rules [] {} := by
  refine ⟨by decide, ?_, ?_, .nil, ?_, fun _ _ => ⟨rfl, rfl⟩, fun _ => rfl⟩
  · rintro b hb
    cases hb
  · rintro b hb
    cases hb
  · rintro b hb
    exact absurd hb (not_lives_nil rules b)

/-- Where nothing is done, nothing has to be kept. -/
theorem append {deeds : List Deed} (h : Chronicle rules history c) (hdeeds : deeds = []) :
    Chronicle rules (history ++ deeds) c := by
  rw [hdeeds, List.append_nil]
  exact h

/-- Ratings have nothing to do with it. -/
theorem withRating (h : Chronicle rules history c) (account : String) (rating : Int) :
    Chronicle rules history (c.withRating account rating) :=
  ⟨h.counter, h.numbered, h.due, h.ordered, h.stored, h.free, h.buckets⟩

/-! ### Who is stored, and who is gone -/

/-- A quiz that is stored is one that lives, as it was asked for. -/
theorem exists_lives (h : Chronicle rules history c) {id : String} {quiz : Quiz}
    (hquiz : c.quizzes.find? id = some quiz) :
    ∃ b, Lives rules history b ∧ rules.idOf b.sequence = id ∧ b.Asks quiz := by
  obtain ⟨b, hlives, rfl⟩ : ∃ b, Lives rules history b ∧ rules.idOf b.sequence = id := by
    by_contra hnone
    have hfree := h.free id fun b hlives hid => hnone ⟨b, hlives, hid⟩
    rw [hfree.1] at hquiz
    cases hquiz
  obtain ⟨⟨quiz', hstored, hasks⟩, -⟩ := h.stored b hlives
  rw [hquiz] at hstored
  obtain rfl := Option.some.inj hstored
  exact ⟨b, hlives, rfl, hasks⟩

/-- A number that no living quiz has leads to nothing. -/
theorem find?_of_gone (h : Chronicle rules history c) (hsep : rules.hash.Separates) {s : Int}
    (hs : IsU64 s) (hgone : ∀ b, Lives rules history b → b.sequence ≠ s) :
    c.quizzes.find? (rules.idOf s) = none ∧ c.keys.find? (rules.idOf s) = none := by
  refine h.free _ fun b hlives hid => hgone b hlives ?_
  exact Rules.idOf_inj hsep (h.isU64_sequence hlives.created_mem) hs hid

/-- **Once a quiz is gone, no quiz with its number lives again.** -/
theorem gone_append {more : List Deed} {b : Creation} (h : Chronicle rules (history ++ more) c)
    (hb : .created b ∈ history) (hgone : ¬ Lives rules history b) :
    ∀ b', Lives rules (history ++ more) b' → b'.sequence ≠ b.sequence := by
  intro b' hlives heq
  obtain rfl := h.unique hlives.created_mem (List.mem_append_left more hb) heq
  rcases lives_or_created hlives with hlives | hmore
  · exact hgone hlives
  · have hordered := h.ordered
    rw [creations_append] at hordered
    exact Int.lt_irrefl _ ((List.pairwise_append.mp hordered).2.2 b' (mem_creations.mpr hb) b'
      (mem_creations.mpr hmore))

/-- A quiz is stored with its key just if it lives. -/
theorem isSome_iff_lives (h : Chronicle rules history c) (hsep : rules.hash.Separates)
    {b : Creation} (hb : .created b ∈ history) :
    ((c.quizzes.find? (rules.idOf b.sequence)).isSome ↔ Lives rules history b) ∧
      ((c.keys.find? (rules.idOf b.sequence)).isSome ↔ Lives rules history b) := by
  by_cases hlives : Lives rules history b
  · obtain ⟨⟨quiz, hquiz, -⟩, hkey⟩ := h.stored b hlives
    rw [hquiz, hkey]
    exact ⟨iff_of_true rfl hlives, iff_of_true rfl hlives⟩
  · obtain ⟨hquiz, hkey⟩ := h.find?_of_gone hsep (h.isU64_sequence hb) <| by
      rintro b' hlives' heq
      obtain rfl := h.unique hlives'.created_mem hb heq
      exact hlives hlives'
    rw [hquiz, hkey]
    exact ⟨iff_of_false (by simp) hlives, iff_of_false (by simp) hlives⟩

/-! ### Buckets -/

/-- A bucket holds the id of a quiz that lives just if the quiz waits in it. -/
theorem mem_bucket (h : Chronicle rules history c) (hsep : rules.hash.Separates) {b : Creation}
    (hb : Lives rules history b) (bucket : String) :
    rules.idOf b.sequence ∈ c.bucket bucket ↔ rules.idOf (b.due rules) = bucket := by
  rw [h.buckets, List.mem_map]
  constructor
  · rintro ⟨b', hb', hid⟩
    obtain ⟨hwaits, hdue⟩ := List.mem_filter.mp hb'
    obtain rfl := h.eq_of_idOf hsep (created_mem_of_mem_waiting hwaits) hb.created_mem hid
    exact of_decide_eq_true hdue
  · exact fun hdue => ⟨b, List.mem_filter.mpr ⟨mem_waiting_of_lives hb, decide_eq_true hdue⟩, rfl⟩

/-- No bucket holds an id twice. -/
theorem nodup_bucket (h : Chronicle rules history c) (hsep : rules.hash.Separates)
    (bucket : String) : (c.bucket bucket).Nodup := by
  have hnodup : (rules.waiting history).Nodup := by
    refine (h.ordered.sublist (waiting_sublist rules history)).imp fun hlt heq => ?_
    rw [heq] at hlt
    exact Int.lt_irrefl _ hlt
  rw [h.buckets]
  refine List.Nodup.map_on (fun b hb b' hb' hid => ?_) (hnodup.filter _)
  exact h.eq_of_idOf hsep (created_mem_of_mem_waiting (List.mem_filter.mp hb).1)
    (created_mem_of_mem_waiting (List.mem_filter.mp hb').1) hid

/-- Quizzes wait in one bucket just if they fall due at one tick. -/
theorem idOf_due (h : Chronicle rules history c) (hsep : rules.hash.Separates) {b : Creation}
    (hb : .created b ∈ history) {tick : Int} (htick : IsU64 tick) :
    rules.idOf (b.due rules) = rules.idOf tick ↔ b.due rules = tick := by
  constructor
  · exact Rules.idOf_inj hsep (h.due b hb) htick
  · intro hdue
    rw [hdue]

/-! ### One deed -/

/-- A number beyond the counter has an id that no quiz has had so far. -/
theorem idOf_ne (h : Chronicle rules history c) (hsep : rules.hash.Separates) {s : Int}
    (hs : IsU64 s) (hnext : c.counter < s) {b : Creation} (hb : .created b ∈ history) :
    rules.idOf b.sequence ≠ rules.idOf s := by
  intro hid
  have heq := Rules.idOf_inj hsep (h.isU64_sequence hb) hs hid
  have hle := (h.numbered b hb).2
  omega

/-- Who is scheduled waits in the bucket of the tick at which it falls due, behind the others. -/
theorem bucket_scheduling (h : Chronicle rules history c) (b : Creation) (bucket : String) :
    (c.scheduling (rules.idOf (b.due rules)) (rules.idOf b.sequence)).bucket bucket =
      ((rules.waiting (history ++ [.created b])).filter fun b' =>
        rules.idOf (b'.due rules) = bucket).map fun b' => rules.idOf b'.sequence := by
  rw [Contents.bucket_scheduling, waiting_append_singleton, Rules.waitAfter, List.filter_append,
    List.map_append, ← h.buckets bucket]
  by_cases hb : bucket = rules.idOf (b.due rules)
  · rw [if_pos hb, List.filter_cons_of_pos (by simpa using hb.symm), hb]
    rfl
  · rw [if_neg hb, List.filter_cons_of_neg (by simpa using Ne.symm hb)]
    exact (List.append_nil _).symm

/-- **A creation keeps the invariant.** -/
theorem created (h : Chronicle rules history c) (hsep : rules.hash.Separates) {b : Creation}
    {quiz : Quiz} (hsequence : b.sequence = c.counter + 1) (hasks : b.Asks quiz)
    (hnumber : IsU64 b.sequence) (hdue : IsU64 (b.due rules)) :
    Chronicle rules (history ++ [.created b])
      (((c.withQuiz (rules.idOf b.sequence) quiz b.key).scheduling (rules.idOf (b.due rules))
        (rules.idOf b.sequence)).counting b.sequence) := by
  have hmem {b' : Creation} (hb' : .created b' ∈ history ++ [.created b]) :
      .created b' ∈ history ∨ b' = b := by
    simpa using hb'
  have hnew {b' : Creation} (hb' : .created b' ∈ history) :
      rules.idOf b'.sequence ≠ rules.idOf b.sequence :=
    h.idOf_ne hsep hnumber (by omega) hb'
  refine ⟨hnumber, ?_, ?_, ?_, ?_, ?_, ?_⟩
  · intro b' hb'
    have hmin := h.counter.1
    rcases hmem hb' with hb' | rfl
    · obtain ⟨hone, hle⟩ := h.numbered b' hb'
      exact ⟨hone, by change b'.sequence ≤ b.sequence; omega⟩
    · exact ⟨by omega, Int.le_refl b'.sequence⟩
  · intro b' hb'
    rcases hmem hb' with hb' | rfl
    · exact h.due b' hb'
    · exact hdue
  · rw [creations_append]
    refine List.pairwise_append.mpr ⟨h.ordered, List.pairwise_singleton _ _, ?_⟩
    intro b₁ hb₁ b₂ hb₂
    have hle := (h.numbered b₁ (mem_creations.mp hb₁)).2
    rw [List.mem_singleton.mp hb₂]
    omega
  · intro b' hb'
    change (∃ q, (c.quizzes.insert (rules.idOf b.sequence) quiz).find? _ = some q ∧ _) ∧
      (c.keys.insert (rules.idOf b.sequence) b.key).find? _ = _
    rcases lives_append_singleton.mp hb' with ⟨hlives, -⟩ | heq
    · rw [Table.find?_insert, Table.find?_insert, if_neg (hnew hlives.created_mem),
        if_neg (hnew hlives.created_mem)]
      exact h.stored b' hlives
    · obtain rfl := Deed.created.inj heq
      rw [Table.find?_insert_self, Table.find?_insert_self]
      exact ⟨⟨quiz, rfl, hasks⟩, rfl⟩
  · intro id hfree
    change (c.quizzes.insert (rules.idOf b.sequence) quiz).find? id = none ∧
      (c.keys.insert (rules.idOf b.sequence) b.key).find? id = none
    have hid : id ≠ rules.idOf b.sequence :=
      (hfree b (lives_append_singleton.mpr (.inr rfl))).symm
    rw [Table.find?_insert, Table.find?_insert, if_neg hid, if_neg hid]
    exact h.free id fun b' hlives =>
      hfree b' (lives_append_singleton.mpr (.inl ⟨hlives, not_false⟩))
  · exact h.bucket_scheduling b

/-- **A deed that creates nothing keeps the invariant** if just the quizzes that it ends are
removed, with their keys, and the buckets are left with those who still wait. -/
theorem ended (h : Chronicle rules history c) {d : Deed} {c' : Contents} {g : String → Prop}
    [DecidablePred g] (hd : d.creation? = none)
    (hends : ∀ b, Lives rules history b → (b.EndedBy rules d ↔ g (rules.idOf b.sequence)))
    (hcounter : c'.counter = c.counter)
    (hquizzes : ∀ id, c'.quizzes.find? id = if g id then none else c.quizzes.find? id)
    (hkeys : ∀ id, c'.keys.find? id = if g id then none else c.keys.find? id)
    (hbuckets : ∀ bucket, c'.bucket bucket =
      ((rules.waiting (history ++ [d])).filter fun b => rules.idOf (b.due rules) = bucket).map
        fun b => rules.idOf b.sequence) :
    Chronicle rules (history ++ [d]) c' := by
  have hmem {b : Creation} (hb : .created b ∈ history ++ [d]) : .created b ∈ history := by
    rcases List.mem_append.mp hb with hb | hb
    · exact hb
    · rw [← List.mem_singleton.mp hb] at hd
      cases hd
  refine ⟨?_, ?_, fun b hb => h.due b (hmem hb), ?_, ?_, ?_, hbuckets⟩
  · rw [hcounter]
    exact h.counter
  · intro b hb
    rw [hcounter]
    exact h.numbered b (hmem hb)
  · rw [creations_append_singleton hd]
    exact h.ordered
  · intro b hb
    rcases lives_append_singleton.mp hb with ⟨hlives, hend⟩ | rfl
    · have hstays := mt (hends b hlives).mpr hend
      rw [hquizzes, hkeys, if_neg hstays, if_neg hstays]
      exact h.stored b hlives
    · cases hd
  · intro id hfree
    rw [hquizzes, hkeys]
    by_cases hgone : g id
    · rw [if_pos hgone, if_pos hgone]
      exact ⟨rfl, rfl⟩
    · rw [if_neg hgone, if_neg hgone]
      refine h.free id fun b hlives => ?_
      rintro rfl
      have hstays := mt (hends b hlives).mp hgone
      exact hfree b (lives_append_singleton.mpr (.inl ⟨hlives, hstays⟩)) rfl

/-- **A deletion by the owner keeps the invariant.** The id stays in its bucket. -/
theorem deleted (h : Chronicle rules history c) (hsep : rules.hash.Separates) {ctx : CallContext}
    {sequence : Int} {quiz : Quiz} (hnumber : IsU64 sequence)
    (hquiz : c.quizzes.find? (rules.idOf sequence) = some quiz)
    (howner : ctx.signer = some quiz.owner) :
    Chronicle rules (history ++ [.deleted ctx sequence])
      (c.withoutQuiz (rules.idOf sequence)) := by
  refine h.ended (g := fun id => id = rules.idOf sequence) rfl ?_ rfl
    (fun id => Table.find?_erase ..) (fun id => Table.find?_erase ..) fun bucket => ?_
  · -- Just the quiz of this number ends, and it does so because the caller owns it.
    intro b hlives
    constructor
    · rintro ⟨heq, -⟩
      rw [heq]
    · intro hid
      have heq := Rules.idOf_inj hsep (h.isU64_sequence hlives.created_mem) hnumber hid
      obtain ⟨⟨quiz', hquiz', hasks⟩, -⟩ := h.stored b hlives
      rw [hid, hquiz] at hquiz'
      refine ⟨heq.symm, ?_⟩
      rw [howner, hasks.owner, Option.some.inj hquiz']
  · rw [waiting_append_singleton]
    exact h.buckets bucket

/-- **A tick that has a bucket keeps the invariant.** -/
theorem fired (h : Chronicle rules history c) (hsep : rules.hash.Separates) {tick : Int}
    (htick : IsU64 tick) :
    Chronicle rules (history ++ [.fired tick]) (c.expiring (rules.idOf tick)) := by
  refine h.ended (g := fun id => id ∈ c.bucket (rules.idOf tick)) rfl ?_
    (Contents.counter_expiring ..) (Contents.quizzes_expiring c _) (Contents.keys_expiring c _)
    fun bucket => ?_
  · -- Just the quizzes that fall due end, and just their ids are in the bucket.
    intro b hlives
    rw [h.mem_bucket hsep hlives _, h.idOf_due hsep hlives.created_mem htick]
    exact eq_comm
  · rw [Contents.bucket_expiring, waiting_append_singleton, Rules.waitAfter, List.filter_filter]
    by_cases hb : bucket = rules.idOf tick
    · have hnone : (rules.waiting history).filter (fun b =>
          decide (rules.idOf (b.due rules) = bucket) && decide (b.due rules ≠ tick)) = [] := by
        refine List.filter_eq_nil_iff.mpr fun b hwaits => ?_
        have hdue := h.idOf_due hsep (created_mem_of_mem_waiting hwaits) htick
        rw [hb]
        simp [hdue]
      rw [if_pos hb, hnone]
      rfl
    · rw [if_neg hb, h.buckets bucket]
      refine congrArg _ (List.filter_congr fun b hwaits => ?_)
      have hdue := h.idOf_due hsep (created_mem_of_mem_waiting hwaits) htick
      by_cases hid : rules.idOf (b.due rules) = bucket
      · have hne : b.due rules ≠ tick := by
          intro heq
          rw [heq] at hid
          exact hb hid.symm
        simp [hid, hne]
      · simp [hid]

/-- **A tick without a bucket keeps the invariant**, since no quiz waits for it. -/
theorem fired_of_not_isU64 (h : Chronicle rules history c) {tick : Int} (htick : ¬ IsU64 tick) :
    Chronicle rules (history ++ [.fired tick]) c := by
  have hdue {b : Creation} (hb : .created b ∈ history) : b.due rules ≠ tick := by
    rintro rfl
    exact htick (h.due b hb)
  refine h.ended (g := fun _ => False) rfl ?_ rfl (fun id => (if_neg not_false).symm)
    (fun id => (if_neg not_false).symm) fun bucket => ?_
  · intro b hlives
    constructor
    · intro heq
      exact hdue hlives.created_mem heq.symm
    · exact False.elim
  · have hwaiting : rules.waiting (history ++ [.fired tick]) = rules.waiting history := by
      rw [waiting_append_singleton]
      refine List.filter_eq_self.mpr fun b hwaits => decide_eq_true ?_
      exact hdue (created_mem_of_mem_waiting hwaits)
    rw [hwaiting]
    exact h.buckets bucket

/-! ### Requests and runs -/

/-- A fired tick keeps the invariant, whether it has a bucket or not. -/
theorem of_fired (h : Chronicle rules history v.contents) (hsep : rules.hash.Separates)
    {tick : Int} {outcome : Except Fault (List String)} (hfired : Fired rules tick v outcome v') :
    Chronicle rules (history ++ [.fired tick]) v'.contents := by
  cases hfired with
  | refused htick => exact h.fired_of_not_isU64 (Rules.not_isU64_of_derive htick)
  | done htick log =>
      obtain ⟨hnumber, rfl⟩ := Rules.derive_eq_ok_iff.mp htick
      exact h.fired hsep hnumber

/-- A step keeps the invariant, and fires the tick that the clock moves on to. -/
theorem of_stepped (h : Chronicle rules history v.contents) (hsep : rules.hash.Separates)
    {outcome : Except Fault Int} (hstepped : Stepped rules v outcome v') :
    Chronicle rules (history ++ [.fired (v.clock + 1)]) v'.contents := by
  cases hstepped with
  | refused hfired => exact of_fired (v := { v with clock := v.clock + 1 }) h hsep hfired
  | @done ids v' hfired log =>
      have hnext : Chronicle rules (history ++ [.fired (v.clock + 1)]) v'.contents :=
        of_fired (v := { v with clock := v.clock + 1 }) h hsep hfired
      exact hnext

/-- A number of steps keep the invariant, and fire the ticks that the clock goes through. -/
theorem of_looped {n : Nat} {outcome : Except Fault Unit} (hlooped : Looped rules n v outcome v')
    (hsep : rules.hash.Separates) (h : Chronicle rules history v.contents) :
    Chronicle rules (history ++ firings v.clock v'.clock) v'.contents := by
  induction hlooped generalizing history with
  | done v => exact h.append (firings_self v.clock)
  | @broken n v v' e naps hstepped =>
      have hclock : v'.clock = v.clock + 1 := hstepped.clock
      rw [hclock, firings_cons (by omega), firings_self]
      exact of_stepped (v := { v with naps }) h hsep hstepped
  | @more n v v' v'' tick outcome naps hstepped hrest ih =>
      have hclock : v'.clock = v.clock + 1 := hstepped.clock
      have hle := hrest.clock_le
      have hnext := ih (of_stepped (v := { v with naps }) h hsep hstepped)
      rw [List.append_assoc, List.singleton_append, hclock] at hnext
      rw [firings_cons (by omega)]
      exact hnext

/-- **Every request keeps the invariant.** -/
theorem served (h : Chronicle rules history v.contents) (hsep : rules.hash.Separates)
    {request : Request} {outcome : Except Fault Answer}
    (hserved : Served rules v request outcome v') :
    Chronicle rules (history ++ request.deeds v.clock v'.clock outcome) v'.contents := by
  cases hserved with
  | create hcreated =>
      cases hcreated with
      | refused e => exact h.append rfl
      | @entered quiz hquiz _ _ hentered =>
          obtain ⟨hsender, hquestions, hgate, -⟩ := Rules.newQuiz_eq_ok hquiz
          cases hentered with
          | refused e log => exact h.append rfl
          | done hid _ _ hdue log =>
              obtain ⟨hnumber, rfl⟩ := Rules.derive_eq_ok_iff.mp hid
              obtain ⟨hbucket, rfl⟩ := Rules.derive_eq_ok_iff.mp hdue
              have hasks := (CallContext.sender_eq_ok_iff.mp hsender).1
              exact h.created hsep rfl ⟨hasks, hquestions, hgate⟩ hnumber hbucket
  | attempt hattempted =>
      cases hattempted with
      | refused e => exact h.append rfl
      | done _ _ _ _ _ _ _ _ => exact (h.withRating _ _).append rfl
  | delete hdeleted =>
      cases hdeleted with
      | refused e => exact h.append rfl
      | done hsender hid hquiz log =>
          obtain ⟨hnumber, rfl⟩ := Rules.derive_eq_ok_iff.mp hid
          exact h.deleted hsep hnumber hquiz (CallContext.sender_eq_ok_iff.mp hsender).1
  | tick hfired => exact of_fired h hsep hfired
  | advance => exact h.append rfl
  | step hstepped =>
      rw [Request.deeds, hstepped.clock, firings_cons (by omega), firings_self]
      exact h.of_stepped hsep hstepped
  | @loop _ _ _ v' hlooped log =>
      have hnext : Chronicle rules (history ++ firings v.clock v'.clock) v'.contents :=
        of_looped hlooped hsep h
      exact hnext
  | quiz sequence => exact h.append rfl
  | rating account => exact h.append rfl
  | latest => exact h.append rfl
  | pending due => exact h.append rfl

end Chronicle

/-- **Every run keeps the invariant.** In the end a hall shows contents that tell of all that has
happened. -/
theorem Hall.serve_chronicle {rules : Rules} {hall : Hall} {p : Places} {v : View}
    {history : List Deed} (hsep : rules.hash.Separates) (hshows : hall.Shows p v)
    (h : Chronicle rules history v.contents) (requests : List Request) :
    ∃ v', (serve rules hall requests).2.Shows p v' ∧
      Chronicle rules (history ++ deeds rules hall requests) v'.contents := by
  induction requests generalizing hall v history with
  | nil => exact ⟨v, hshows, h.append rfl⟩
  | cons request rest ih =>
      obtain ⟨outcome, v', hact, hserved⟩ := Act.Yields.serves rules request v
      obtain ⟨hall', hrun, hshows'⟩ := hact p hall hshows
      obtain ⟨v'', hshows'', hrest⟩ := ih hshows' (h.served hsep hserved)
      refine ⟨v'', ?_, ?_⟩
      · rw [serve, hrun]
        exact hshows''
      · rw [deeds, hrun, ← List.append_assoc, hshows.clock]
        simp only [hshows'.clock]
        exact hrest

end QuizHall
