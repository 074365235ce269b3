import Mathlib.Logic.Function.Basic
import QuizHall.Identifier
import QuizHall.Proofs.Store.Records
import QuizHall.Store.Stores

/-!
# The Contents of Stores

What stores hold can be told apart from where they keep it. The contents are the four tables and
the counter, wherever they live; a place is the choice of a backend for quizzes and of one for
ratings. In a key space every slot has an entry or none, and this module says which entry that is,
and how it changes when the contents do.

## Main results

* `Contents.entryOf?_withQuiz`, `Contents.entryOf?_scheduling`, …: which slots a change touches.
* `Contents.withoutQuiz_withQuiz`: a new quiz that is removed again leaves no trace.
* `KeySpace.Shows.insert`, `KeySpace.Shows.erase`: what a key space shows after a change.
-/

namespace QuizHall

/-! ### Contents and places -/

/-- What stores hold, apart from where they keep it. -/
structure Contents extends MemoryStore where
  /-- The rating of every account that has one. -/
  ratings : Table String Int := Table.empty

/-- Where the two parts of stores live. -/
structure Places where
  /-- Where quizzes, keys, buckets and the counter live. -/
  storage : StorageBackend
  /-- Where ratings live. -/
  ratings : RatingBackend

/-- The places that settings name. -/
def Settings.places (settings : Settings) : Places :=
  ⟨settings.storageBackend, settings.effectiveRatingBackend⟩

/-- Whether what belongs into a slot is kept in the key space. -/
def Places.keeps (p : Places) : Slot → Bool
  | .quiz _ | .solution _ | .bucket _ | .counter => p.storage = .redis
  | .rating _ => p.ratings = .redis

namespace Contents

/-- What the contents have for a slot. A counter that never moved has no entry. -/
def entryOf? (c : Contents) : Slot → Option Entry
  | .quiz id => (c.quizzes.find? id).map fun quiz => .ofText quiz.toValue.compact
  | .solution id => (c.keys.find? id).map fun key => .ofText key.toValue.compact
  | .bucket id => (c.buckets.find? id).map fun ids => .list (ids.map String.toUTF8)
  | .rating account => (c.ratings.find? account).map fun rating => .ofText (Integer.text rating)
  | .counter => if c.counter = 0 then none else some (.ofText (Integer.text c.counter))

/-- The counter is a number that an id can be derived from, and ratings are scores. These are the
bounds within which a decimal text is sure to be read back. -/
structure InRange (c : Contents) : Prop where
  /-- Quizzes are counted upwards from zero. -/
  counter_nonneg : 0 ≤ c.counter
  /-- The latest quiz has an id. -/
  counter_le : c.counter ≤ u64Max
  /-- A rating is never below zero, and never above the best score. -/
  rating : ∀ account rating, c.ratings.find? account = some rating →
    0 ≤ rating ∧ rating ≤ (maxScore : Int)

/-! ### Changes of contents -/

/-- The contents with one more quiz and its key. -/
def withQuiz (c : Contents) (id : String) (quiz : Quiz) (key : Answers) : Contents :=
  { c with quizzes := c.quizzes.insert id quiz, keys := c.keys.insert id key }

/-- The contents without a quiz and its key. -/
def withoutQuiz (c : Contents) (id : String) : Contents :=
  { c with toMemoryStore := c.toMemoryStore.deleteQuiz id }

/-- The contents with an id at the end of a bucket. -/
def scheduling (c : Contents) (bucket id : String) : Contents :=
  { c with toMemoryStore := c.toMemoryStore.appendBucket bucket id }

/-- The contents without a bucket. -/
def withoutBucket (c : Contents) (bucket : String) : Contents :=
  { c with toMemoryStore := c.toMemoryStore.removeBucket bucket }

/-- The contents with another number on the counter. -/
def counting (c : Contents) (n : Int) : Contents := { c with counter := n }

/-- The contents with the rating of an account. -/
def withRating (c : Contents) (account : String) (rating : Int) : Contents :=
  { c with ratings := c.ratings.insert account rating }

/-- The contents without a bucket, and without the quizzes whose ids were in it. -/
def expiring (c : Contents) (bucket : String) : Contents :=
  (c.bucket bucket).foldl withoutQuiz (c.withoutBucket bucket)

/-- The rating of an account; zero if it has none. -/
def rating (c : Contents) (account : String) : Int := (c.ratings.find? account).getD 0

/-! ### Reading changed contents -/

/-- A bucket reads the ids that were scheduled in it. -/
theorem bucket_scheduling (c : Contents) (bucket id bucket' : String) :
    (c.scheduling bucket id).bucket bucket' =
      if bucket' = bucket then c.bucket bucket ++ [id] else c.bucket bucket' := by
  simp only [scheduling, MemoryStore.appendBucket, MemoryStore.bucket, Table.find?_insert]
  split <;> rfl

/-- An account reads the rating that was stored for it. -/
theorem rating_withRating (c : Contents) (account : String) (rating : Int) :
    (c.withRating account rating).rating = Function.update c.rating account rating := by
  funext account'
  rw [Contents.rating, withRating, Table.find?_insert, Function.update_apply]
  split <;> rfl

/-- Removing a number of quizzes removes just the quizzes of these ids. -/
theorem quizzes_foldl_withoutQuiz (ids : List String) (c : Contents) (id : String) :
    (ids.foldl withoutQuiz c).quizzes.find? id =
      if id ∈ ids then none else c.quizzes.find? id := by
  induction ids generalizing c with
  | nil => rfl
  | cons id' ids ih =>
      rw [List.foldl_cons, ih, withoutQuiz, MemoryStore.deleteQuiz, Table.find?_erase]
      by_cases hid : id = id'
      · simp [hid]
      · simp [hid]

/-- Removing a number of quizzes removes just the keys of these ids. -/
theorem keys_foldl_withoutQuiz (ids : List String) (c : Contents) (id : String) :
    (ids.foldl withoutQuiz c).keys.find? id = if id ∈ ids then none else c.keys.find? id := by
  induction ids generalizing c with
  | nil => rfl
  | cons id' ids ih =>
      rw [List.foldl_cons, ih, withoutQuiz, MemoryStore.deleteQuiz, Table.find?_erase]
      by_cases hid : id = id'
      · simp [hid]
      · simp [hid]

/-- Removing quizzes leaves buckets, the counter and ratings as they are. -/
theorem foldl_withoutQuiz (ids : List String) (c : Contents) :
    (ids.foldl withoutQuiz c).buckets = c.buckets ∧
      (ids.foldl withoutQuiz c).counter = c.counter ∧
      (ids.foldl withoutQuiz c).ratings = c.ratings := by
  induction ids generalizing c with
  | nil => exact ⟨rfl, rfl, rfl⟩
  | cons id ids ih => exact ih (c.withoutQuiz id)

/-- When a bucket expires, the quizzes in it are gone and all others are there. -/
theorem quizzes_expiring (c : Contents) (bucket id : String) :
    (c.expiring bucket).quizzes.find? id =
      if id ∈ c.bucket bucket then none else c.quizzes.find? id :=
  quizzes_foldl_withoutQuiz (c.bucket bucket) (c.withoutBucket bucket) id

/-- When a bucket expires, the keys of the quizzes in it are gone and all others are there. -/
theorem keys_expiring (c : Contents) (bucket id : String) :
    (c.expiring bucket).keys.find? id =
      if id ∈ c.bucket bucket then none else c.keys.find? id :=
  keys_foldl_withoutQuiz (c.bucket bucket) (c.withoutBucket bucket) id

/-- When a bucket expires, it is empty and all others are as they were. -/
theorem bucket_expiring (c : Contents) (bucket bucket' : String) :
    (c.expiring bucket).bucket bucket' = if bucket' = bucket then [] else c.bucket bucket' := by
  rw [expiring, MemoryStore.bucket, (foldl_withoutQuiz _ _).1, withoutBucket,
    MemoryStore.removeBucket, Table.find?_erase]
  split <;> rfl

/-- The counter does not move when a bucket expires. -/
theorem counter_expiring (c : Contents) (bucket : String) :
    (c.expiring bucket).counter = c.counter :=
  (foldl_withoutQuiz (c.bucket bucket) (c.withoutBucket bucket)).2.1

/-! ### Numbers in range -/

namespace InRange

variable {c c' : Contents}

/-- Where nothing happened yet, the counter is at zero and nobody has a rating. -/
theorem empty : InRange {} := by
  refine ⟨by decide, by decide, fun account rating hfind => ?_⟩
  cases hfind

/-- The numbers are the counter and the ratings. -/
theorem of_eq (h : c.InRange) (hcounter : c'.counter = c.counter)
    (hratings : c'.ratings = c.ratings) : c'.InRange := by
  refine ⟨?_, ?_, ?_⟩
  · rw [hcounter]
    exact h.counter_nonneg
  · rw [hcounter]
    exact h.counter_le
  · rw [hratings]
    exact h.rating

/-- The rating of an account is in range, whether it has one or not. -/
theorem rating_bounds (h : c.InRange) (account : String) :
    0 ≤ c.rating account ∧ c.rating account ≤ (maxScore : Int) := by
  rw [Contents.rating]
  cases hfind : c.ratings.find? account with
  | none => decide
  | some rating => exact h.rating account rating hfind

/-- A rating that is in range can be stored. -/
theorem withRating (h : c.InRange) {rating : Int} (hrating : 0 ≤ rating ∧ rating ≤ (maxScore : Int))
    (account : String) : (c.withRating account rating).InRange := by
  refine ⟨h.counter_nonneg, h.counter_le, ?_⟩
  intro account' rating' hfind
  rw [Contents.withRating, Table.find?_insert] at hfind
  split at hfind
  · obtain rfl := Option.some.inj hfind
    exact hrating
  · exact h.rating account' rating' hfind

end InRange

/-! ### What a change does to the entries -/

/-- Storing a quiz fills the two slots of its id. -/
theorem entryOf?_withQuiz (c : Contents) (id : String) (quiz : Quiz) (key : Answers) :
    (c.withQuiz id quiz key).entryOf? =
      Function.update (Function.update c.entryOf? (.quiz id) (some (.ofText quiz.toValue.compact)))
        (.solution id) (some (.ofText key.toValue.compact)) := by
  funext slot
  cases slot with
  | quiz id' =>
      simp only [entryOf?, withQuiz, Function.update_apply, Table.find?_insert, reduceCtorEq,
        ↓reduceIte, Slot.quiz.injEq]
      split <;> rfl
  | solution id' =>
      simp only [entryOf?, withQuiz, Function.update_apply, Table.find?_insert, reduceCtorEq,
        ↓reduceIte, Slot.solution.injEq]
      split <;> rfl
  | bucket id' => rfl
  | rating account => rfl
  | counter => rfl

/-- Removing a quiz clears the two slots of its id. -/
theorem entryOf?_withoutQuiz (c : Contents) (id : String) :
    (c.withoutQuiz id).entryOf? =
      Function.update (Function.update c.entryOf? (.quiz id) none) (.solution id) none := by
  funext slot
  cases slot with
  | quiz id' =>
      simp only [entryOf?, withoutQuiz, MemoryStore.deleteQuiz, Function.update_apply,
        Table.find?_erase, reduceCtorEq, ↓reduceIte, Slot.quiz.injEq]
      split <;> rfl
  | solution id' =>
      simp only [entryOf?, withoutQuiz, MemoryStore.deleteQuiz, Function.update_apply,
        Table.find?_erase, reduceCtorEq, ↓reduceIte, Slot.solution.injEq]
      split <;> rfl
  | bucket id' => rfl
  | rating account => rfl
  | counter => rfl

/-- Scheduling an id fills the slot of the bucket. -/
theorem entryOf?_scheduling (c : Contents) (bucket id : String) :
    (c.scheduling bucket id).entryOf? =
      Function.update c.entryOf? (.bucket bucket)
        (some (.list ((c.bucket bucket ++ [id]).map String.toUTF8))) := by
  funext slot
  cases slot with
  | bucket bucket' =>
      simp only [entryOf?, scheduling, MemoryStore.appendBucket, Function.update_apply,
        Table.find?_insert, Slot.bucket.injEq]
      split <;> rfl
  | quiz id' => rfl
  | solution id' => rfl
  | rating account => rfl
  | counter => rfl

/-- Removing a bucket clears its slot. -/
theorem entryOf?_withoutBucket (c : Contents) (bucket : String) :
    (c.withoutBucket bucket).entryOf? = Function.update c.entryOf? (.bucket bucket) none := by
  funext slot
  cases slot with
  | bucket bucket' =>
      simp only [entryOf?, withoutBucket, MemoryStore.removeBucket, Function.update_apply,
        Table.find?_erase, Slot.bucket.injEq]
      split <;> rfl
  | quiz id' => rfl
  | solution id' => rfl
  | rating account => rfl
  | counter => rfl

/-- A counter that is not zero fills its slot. -/
theorem entryOf?_counting (c : Contents) {n : Int} (h : n ≠ 0) :
    (c.counting n).entryOf? =
      Function.update c.entryOf? .counter (some (.ofText (Integer.text n))) := by
  funext slot
  cases slot with
  | counter => exact if_neg h
  | quiz id' => rfl
  | solution id' => rfl
  | bucket id' => rfl
  | rating account => rfl

/-- Storing a rating fills the slot of the account. -/
theorem entryOf?_withRating (c : Contents) (account : String) (rating : Int) :
    (c.withRating account rating).entryOf? =
      Function.update c.entryOf? (.rating account) (some (.ofText (Integer.text rating))) := by
  funext slot
  cases slot with
  | rating account' =>
      simp only [entryOf?, withRating, Function.update_apply, Table.find?_insert,
        Slot.rating.injEq]
      split <;> rfl
  | quiz id' => rfl
  | solution id' => rfl
  | bucket id' => rfl
  | counter => rfl

/-- A quiz that was stored under a free id and removed again leaves no trace. -/
theorem withoutQuiz_withQuiz {c : Contents} {id : String} (hquiz : c.quizzes.find? id = none)
    (hkey : c.keys.find? id = none) (quiz : Quiz) (key : Answers) :
    (c.withQuiz id quiz key).withoutQuiz id = c := by
  simp only [withoutQuiz, withQuiz, MemoryStore.deleteQuiz, Table.erase_insert hquiz,
    Table.erase_insert hkey]

end Contents

/-- What the slots of a key space show: the entries of the contents that are kept there. -/
def Places.kept (p : Places) (c : Contents) (slot : Slot) : Option Entry :=
  if p.keeps slot then c.entryOf? slot else none

namespace KeySpace

/-- A key space **shows** entries if every slot holds the entry that is given for it, and no name
is in use that is not the name of a slot. -/
structure Shows (ks : KeySpace) (entryOf? : Slot → Option Entry) : Prop where
  /-- What the slots hold. -/
  slots : ∀ slot : Slot, ks.find? slot.name = entryOf? slot
  /-- Nothing is kept apart from the slots. -/
  nothingElse : ∀ name, (∀ slot : Slot, slot.name ≠ name) → ks.find? name = none

namespace Shows

variable {ks : KeySpace} {entryOf? : Slot → Option Entry}

/-- Filling a slot. -/
theorem insert (h : ks.Shows entryOf?) (slot : Slot) (e : Entry) :
    Shows (ks.insert slot.name e) (Function.update entryOf? slot (some e)) := by
  refine ⟨fun t => ?_, fun name hname => ?_⟩
  · rw [Slot.find?_insert, Function.update_apply, h.slots]
  · rw [Table.find?_insert, if_neg (hname slot).symm]
    exact h.nothingElse name hname

/-- Clearing a slot. -/
theorem erase (h : ks.Shows entryOf?) (slot : Slot) :
    Shows (ks.erase slot.name) (Function.update entryOf? slot none) := by
  refine ⟨fun t => ?_, fun name hname => ?_⟩
  · rw [Slot.find?_erase, Function.update_apply, h.slots]
  · rw [Table.find?_erase, if_neg (hname slot).symm]
    exact h.nothingElse name hname

end Shows

end KeySpace

namespace Places

variable {p : Places} {c c' : Contents}

/-- A change of one entry that is kept in the key space is a change of what is shown there. -/
theorem kept_update (slot : Slot) {e : Option Entry} (hkeeps : p.keeps slot)
    (h : c'.entryOf? = Function.update c.entryOf? slot e) :
    p.kept c' = Function.update (p.kept c) slot e := by
  funext t
  rw [kept, h, Function.update_apply, Function.update_apply]
  by_cases ht : t = slot
  · rw [if_pos ht, if_pos ht, ht, if_pos hkeeps]
  · rw [if_neg ht, if_neg ht, kept]

/-- A change of two entries is a change of one after the other. -/
theorem kept_update₂ (s t : Slot) {e f : Option Entry} (hs : p.keeps s) (ht : p.keeps t)
    (h : c'.entryOf? = Function.update (Function.update c.entryOf? s e) t f) :
    p.kept c' = Function.update (Function.update (p.kept c) s e) t f := by
  funext u
  rw [kept, h]
  simp only [Function.update_apply]
  by_cases hu : u = t
  · rw [if_pos hu, if_pos hu, hu, if_pos ht]
  by_cases hv : u = s
  · rw [if_neg hu, if_neg hu, if_pos hv, if_pos hv, hv, if_pos hs]
  · rw [if_neg hu, if_neg hu, if_neg hv, if_neg hv, kept]

end Places

end QuizHall
