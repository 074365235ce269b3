import QuizHall.Proofs.Store.Contents
import QuizHall.Proofs.Store.Integers

/-!
# Stores That Hold Their Contents

`Stores.Holds` says what stores look like that hold given contents in a given place. For every
operation on stores there is a law here that speaks of the contents alone. A read gives what the
contents have. A write succeeds whenever it makes sense for the contents, and the stores then hold
the changed contents in the same place. Nothing about a backend has to be looked at after that.

## Main results

* `Holds.quiz?`, `Holds.key?`, `Holds.bucket`, `Holds.counter`, `Holds.rating`: what is read.
* `Holds.createQuiz`, `Holds.deleteQuiz`, `Holds.appendBucket`, `Holds.drainBucket`,
  `Holds.putCounter`, `Holds.saveRating`: what is written.
* `Holds.ofSettings`: the stores that settings ask for hold nothing.
-/

namespace QuizHall

namespace Stores

/-- Stores **hold** contents in a place if each part lives on the backend that the place names and
is there what the contents say, and the pools that are needed are open. -/
structure Holds (s : Stores) (p : Places) (c : Contents) : Prop where
  /-- Quizzes, keys, buckets and the counter live where the place says. -/
  quizzes : match p.storage with
    | .memory => s.quizzes = .memory c.toMemoryStore
    | .redis => s.quizzes = .redis
  /-- Ratings live where the place says. The number of commits tells nothing about the contents. -/
  ratings : match p.ratings with
    | .memory => s.ratings = .memory c.ratings
    | .redis => s.ratings = .redis
    | .mysql => ∃ commits, s.ratings = .mysql ⟨c.ratings, commits⟩
  /-- The key space shows what is kept in it, and nothing else. -/
  keySpace : s.keySpace.Shows (p.kept c)
  /-- The key space can be reached if something is kept in it. -/
  redisPool : p.storage = .redis ∨ p.ratings = .redis → s.redisPool.isOpen = true
  /-- The relational table can be reached if ratings are kept in it. -/
  mysqlPool : p.ratings = .mysql → s.mysqlPool.isOpen = true

/-! ### The key space behind an open pool -/

/-- Behind an open pool a read is a read of the key space. -/
theorem readKeys_of_isOpen {α : Type} {s : Stores} (h : s.redisPool.isOpen = true)
    (f : KeySpace → Except Fault α) : s.readKeys f = f s.keySpace := by
  rw [readKeys, Pool.acquire, if_pos h]
  rfl

/-- Behind an open pool a write is a write of the key space. -/
theorem writeKeys_of_isOpen {s : Stores} (h : s.redisPool.isOpen = true)
    (f : KeySpace → Except Fault KeySpace) :
    s.writeKeys f = (f s.keySpace).map fun ks => { s with keySpace := ks } := by
  rw [writeKeys, Pool.acquire, if_pos h]
  cases hf : f s.keySpace with
  | ok ks => rfl
  | error e => rfl

namespace Holds

variable {s : Stores} {p : Places} {c : Contents}

/-- Quizzes are in memory, or in a key space that can be reached. -/
theorem quizPlace (h : s.Holds p c) :
    (p.storage = .memory ∧ s.quizzes = .memory c.toMemoryStore) ∨
      (p.storage = .redis ∧ s.quizzes = .redis ∧ s.redisPool.isOpen = true) := by
  have hquizzes := h.quizzes
  cases hp : p.storage with
  | memory =>
      rw [hp] at hquizzes
      exact .inl ⟨rfl, hquizzes⟩
  | redis =>
      rw [hp] at hquizzes
      exact .inr ⟨rfl, hquizzes, h.redisPool (.inl hp)⟩

/-- Ratings are in memory, in a key space or in a relational table, which can be reached. -/
theorem ratingPlace (h : s.Holds p c) :
    (p.ratings = .memory ∧ s.ratings = .memory c.ratings) ∨
      (p.ratings = .redis ∧ s.ratings = .redis ∧ s.redisPool.isOpen = true) ∨
      (p.ratings = .mysql ∧ s.mysqlPool.isOpen = true ∧
        ∃ commits, s.ratings = .mysql ⟨c.ratings, commits⟩) := by
  have hratings := h.ratings
  cases hp : p.ratings with
  | memory =>
      rw [hp] at hratings
      exact .inl ⟨rfl, hratings⟩
  | redis =>
      rw [hp] at hratings
      exact .inr (.inl ⟨rfl, hratings, h.redisPool (.inr hp)⟩)
  | mysql =>
      rw [hp] at hratings
      exact .inr (.inr ⟨rfl, h.mysqlPool hp, hratings⟩)

/-- A slot that is kept in the key space holds what the contents have for it. -/
theorem slot (h : s.Holds p c) (slot : Slot) (hkeeps : p.keeps slot) :
    s.keySpace.find? slot.name = c.entryOf? slot :=
  (h.keySpace.slots slot).trans (if_pos hkeeps)

/-! ### Reading -/

/-- The quiz of an id is the one that the contents have. -/
theorem quiz? (h : s.Holds p c) (id : String) : s.quiz? id = .ok (c.quizzes.find? id) := by
  obtain ⟨-, hs⟩ | ⟨hp, hs, hopen⟩ := h.quizPlace
  · simp only [Stores.quiz?, hs]
  · simp only [Stores.quiz?, hs, readKeys_of_isOpen hopen]
    have hslot := h.slot (.quiz id) (decide_eq_true hp)
    rw [Contents.entryOf?] at hslot
    cases hfind : c.quizzes.find? id with
    | none =>
        rw [hfind] at hslot
        exact KeySpace.record?_of_none _ hslot
    | some quiz =>
        rw [hfind] at hslot
        exact KeySpace.quiz?_ofText hslot

/-- The key of a quiz is the one that the contents have. -/
theorem key? (h : s.Holds p c) (id : String) : s.key? id = .ok (c.keys.find? id) := by
  obtain ⟨-, hs⟩ | ⟨hp, hs, hopen⟩ := h.quizPlace
  · simp only [Stores.key?, hs]
  · simp only [Stores.key?, hs, readKeys_of_isOpen hopen]
    have hslot := h.slot (.solution id) (decide_eq_true hp)
    rw [Contents.entryOf?] at hslot
    cases hfind : c.keys.find? id with
    | none =>
        rw [hfind] at hslot
        exact KeySpace.record?_of_none _ hslot
    | some key =>
        rw [hfind] at hslot
        exact KeySpace.key?_ofText hslot

/-- The ids in a bucket are those that the contents have. -/
theorem bucket (h : s.Holds p c) (bucket : String) :
    s.bucket bucket = .ok (c.bucket bucket) := by
  obtain ⟨-, hs⟩ | ⟨hp, hs, hopen⟩ := h.quizPlace
  · simp only [Stores.bucket, hs]
  · simp only [Stores.bucket, hs, readKeys_of_isOpen hopen]
    have hslot := h.slot (.bucket bucket) (decide_eq_true hp)
    rw [Contents.entryOf?] at hslot
    rw [MemoryStore.bucket]
    cases hfind : c.buckets.find? bucket with
    | none =>
        rw [hfind] at hslot
        exact KeySpace.bucket_of_none hslot
    | some ids =>
        rw [hfind] at hslot
        exact KeySpace.bucket_of_list hslot

/-- The counter is at the number that the contents have. -/
theorem counter (h : s.Holds p c) (hc : c.InRange) : s.counter = .ok c.counter := by
  obtain ⟨-, hs⟩ | ⟨hp, hs, hopen⟩ := h.quizPlace
  · simp only [Stores.counter, hs]
  · simp only [Stores.counter, hs, readKeys_of_isOpen hopen]
    have hslot := h.slot .counter (decide_eq_true hp)
    rw [Contents.entryOf?] at hslot
    by_cases hzero : c.counter = 0
    · rw [if_pos hzero] at hslot
      rw [hzero]
      exact KeySpace.integer_of_none hslot
    · rw [if_neg hzero] at hslot
      refine KeySpace.integer_ofText hslot (Fault.lt_unwritable ?_)
      have hmin := hc.counter_nonneg
      have hmax := hc.counter_le
      rw [u64Max] at hmax
      omega

/-- The rating of an account is the one that the contents have. -/
theorem rating (h : s.Holds p c) (hc : c.InRange) (account : String) :
    s.rating account = .ok (c.rating account) := by
  obtain ⟨-, hs⟩ | ⟨hp, hs, hopen⟩ | ⟨-, hopen, commits, hs⟩ := h.ratingPlace
  · simp only [Stores.rating, hs, Contents.rating]
  · simp only [Stores.rating, hs, readKeys_of_isOpen hopen]
    have hslot := h.slot (.rating account) (decide_eq_true hp)
    rw [Contents.entryOf?] at hslot
    cases hfind : c.ratings.find? account with
    | none =>
        rw [hfind] at hslot
        rw [Contents.rating, hfind]
        exact KeySpace.integer_of_none hslot
    | some rating =>
        rw [hfind] at hslot
        rw [Contents.rating, hfind, Option.getD_some]
        refine KeySpace.integer_ofText hslot (Fault.lt_unwritable ?_)
        obtain ⟨hmin, hmax⟩ := hc.rating account rating hfind
        rw [maxScore] at hmax
        omega
  · simp only [Stores.rating, hs, Pool.acquire, hopen]
    rfl

/-! ### Writing -/

/-- Quizzes in memory can be changed there. -/
theorem inMemory {c' : Contents} (h : s.Holds p c) (hp : p.storage = .memory)
    (hratings : c'.ratings = c.ratings) :
    Holds { s with quizzes := .memory c'.toMemoryStore } p c' := by
  refine ⟨?_, ?_, ?_, h.redisPool, h.mysqlPool⟩
  · rw [hp]
  · rw [hratings]
    exact h.ratings
  · have hkept : p.kept c' = p.kept c := by
      funext slot
      cases slot with
      | rating account =>
          rw [Places.kept, Places.kept, Contents.entryOf?, Contents.entryOf?, hratings]
      | _ =>
          rw [Places.kept, Places.kept, Places.keeps, hp]
          rfl
    rw [hkept]
    exact h.keySpace

/-- Quizzes in a key space can be changed there. -/
theorem writeKeys {c' : Contents} {f : KeySpace → Except Fault KeySpace} {ks : KeySpace}
    (h : s.Holds p c) (hp : p.storage = .redis) (hf : f s.keySpace = .ok ks)
    (hratings : c'.ratings = c.ratings) (hks : ks.Shows (p.kept c')) :
    ∃ s', s.writeKeys f = .ok s' ∧ s'.Holds p c' := by
  refine ⟨{ s with keySpace := ks }, ?_, ?_, ?_, hks, h.redisPool, h.mysqlPool⟩
  · rw [writeKeys_of_isOpen (h.redisPool (.inl hp)), hf]
    rfl
  · have hquizzes := h.quizzes
    rw [hp] at hquizzes ⊢
    exact hquizzes
  · rw [hratings]
    exact h.ratings

/-- A quiz is not stored under an id that is taken. -/
theorem createQuiz_taken (h : s.Holds p c) {id : String}
    (taken : c.quizzes.contains id ∨ c.keys.contains id) (quiz : Quiz) (key : Answers) :
    s.createQuiz id quiz key = .error (.idTaken id) := by
  obtain ⟨-, hs⟩ | ⟨hp, hs, hopen⟩ := h.quizPlace
  · simp only [Stores.createQuiz, hs, MemoryStore.createQuiz, if_pos taken]
    rfl
  · have hquiz := h.slot (.quiz id) (decide_eq_true hp)
    have hkey := h.slot (.solution id) (decide_eq_true hp)
    have htaken : s.keySpace.contains (Key.quiz id) ∨ s.keySpace.contains (Key.solution id) := by
      simp only [Slot.name, Contents.entryOf?] at hquiz hkey
      rw [Table.contains, Table.contains, hquiz, hkey, Option.isSome_map, Option.isSome_map]
      exact taken
    simp only [Stores.createQuiz, hs, writeKeys_of_isOpen hopen, KeySpace.createQuiz,
      if_pos htaken]
    rfl

/-- A quiz and its key are stored under an id that is free. -/
theorem createQuiz (h : s.Holds p c) {id : String} (hquiz : c.quizzes.find? id = none)
    (hkey : c.keys.find? id = none) (quiz : Quiz) (key : Answers) :
    ∃ s', s.createQuiz id quiz key = .ok s' ∧ s'.Holds p (c.withQuiz id quiz key) := by
  obtain ⟨hp, hs⟩ | ⟨hp, hs, hopen⟩ := h.quizPlace
  · have hfree : ¬ (c.quizzes.contains id ∨ c.keys.contains id) := by
      simp [Table.contains, hquiz, hkey]
    refine ⟨_, ?_, h.inMemory hp rfl⟩
    simp only [Stores.createQuiz, hs, MemoryStore.createQuiz, if_neg hfree]
    rfl
  · have hfind := h.slot (.quiz id) (decide_eq_true hp)
    have hfindKey := h.slot (.solution id) (decide_eq_true hp)
    rw [Contents.entryOf?, hquiz] at hfind
    rw [Contents.entryOf?, hkey] at hfindKey
    have hcreate := KeySpace.createQuiz_of_free quiz key hfind hfindKey
    simp only [Stores.createQuiz, hs]
    refine h.writeKeys hp hcreate rfl ?_
    rw [Places.kept_update₂ (.quiz id) (.solution id) (decide_eq_true hp)
      (decide_eq_true hp) (c.entryOf?_withQuiz id quiz key)]
    exact (h.keySpace.insert (.quiz id) _).insert (.solution id) _

/-- Removing a quiz and its key never fails. -/
theorem deleteQuiz (h : s.Holds p c) (id : String) :
    ∃ s', s.deleteQuiz id = .ok s' ∧ s'.Holds p (c.withoutQuiz id) := by
  obtain ⟨hp, hs⟩ | ⟨hp, hs, hopen⟩ := h.quizPlace
  · refine ⟨_, ?_, h.inMemory hp rfl⟩
    simp only [Stores.deleteQuiz, hs]
    rfl
  · simp only [Stores.deleteQuiz, hs]
    refine h.writeKeys hp rfl rfl ?_
    rw [Places.kept_update₂ (.quiz id) (.solution id) (decide_eq_true hp)
      (decide_eq_true hp) (c.entryOf?_withoutQuiz id)]
    exact (h.keySpace.erase (.quiz id)).erase (.solution id)

/-- Appending an id to a bucket never fails. -/
theorem appendBucket (h : s.Holds p c) (bucket id : String) :
    ∃ s', s.appendBucket bucket id = .ok s' ∧ s'.Holds p (c.scheduling bucket id) := by
  obtain ⟨hp, hs⟩ | ⟨hp, hs, hopen⟩ := h.quizPlace
  · refine ⟨_, ?_, h.inMemory hp rfl⟩
    simp only [Stores.appendBucket, hs]
    rfl
  · have hslot := h.slot (.bucket bucket) (decide_eq_true hp)
    have happend : s.keySpace.appendBucket bucket id = .ok (s.keySpace.insert (Key.bucket bucket)
        (.list ((c.bucket bucket ++ [id]).map String.toUTF8))) := by
      simp only [Slot.name, Contents.entryOf?] at hslot
      rw [KeySpace.appendBucket, KeySpace.items, hslot, MemoryStore.bucket]
      cases c.buckets.find? bucket with
      | none => rfl
      | some ids =>
          rw [Option.getD_some, List.map_append]
          rfl
    simp only [Stores.appendBucket, hs]
    refine h.writeKeys hp happend rfl ?_
    rw [Places.kept_update (.bucket bucket) (decide_eq_true hp)
      (c.entryOf?_scheduling bucket id)]
    exact h.keySpace.insert (.bucket bucket) _

/-- Emptying a bucket gives the ids that were in it. -/
theorem drainBucket (h : s.Holds p c) (bucket : String) :
    ∃ s', s.drainBucket bucket = .ok (.ok (c.bucket bucket), s') ∧
      s'.Holds p (c.withoutBucket bucket) := by
  obtain ⟨hp, hs⟩ | ⟨hp, hs, hopen⟩ := h.quizPlace
  · refine ⟨_, ?_, h.inMemory hp rfl⟩
    simp only [Stores.drainBucket, hs]
    rfl
  · have hkept := Places.kept_update (.bucket bucket) (decide_eq_true hp)
      (c.entryOf?_withoutBucket bucket)
    obtain ⟨s', hwrite, hs'⟩ : ∃ s',
        s.writeKeys (fun ks => .ok (ks.removeKey (Key.bucket bucket))) = .ok s' ∧
          s'.Holds p (c.withoutBucket bucket) :=
      h.writeKeys hp rfl rfl (hkept ▸ h.keySpace.erase (.bucket bucket))
    have hids : s.keySpace.bucket bucket = .ok (c.bucket bucket) := by
      rw [← h.bucket bucket]
      simp only [Stores.bucket, hs, readKeys_of_isOpen hopen]
    obtain ⟨items, hitems, hread⟩ := KeySpace.items_of_bucket hids
    refine ⟨s', ?_, hs'⟩
    simp only [Stores.drainBucket, hs, readKeys_of_isOpen hopen, hitems, hwrite, ← hread]
    rfl

/-- The counter can be moved upwards from a number that is not negative. -/
theorem putCounter (h : s.Holds p c) {n : Int} (hzero : 0 ≤ c.counter) (hlt : c.counter < n) :
    ∃ s', s.putCounter n = .ok s' ∧ s'.Holds p (c.counting n) := by
  obtain ⟨hp, hs⟩ | ⟨hp, hs, hopen⟩ := h.quizPlace
  · refine ⟨_, ?_, h.inMemory hp rfl⟩
    simp only [Stores.putCounter, hs, MemoryStore.putCounter, if_neg (Int.not_le.mpr hlt)]
    rfl
  · have hn : n ≠ 0 := by omega
    simp only [Stores.putCounter, hs]
    refine h.writeKeys hp rfl rfl ?_
    rw [Places.kept_update .counter (decide_eq_true hp) (c.entryOf?_counting hn)]
    exact h.keySpace.insert .counter _

/-- Storing a rating never fails. -/
theorem saveRating (h : s.Holds p c) (account : String) (rating : Int) :
    ∃ s', s.saveRating account rating = .ok s' ∧ s'.Holds p (c.withRating account rating) := by
  have hother (hne : p.ratings ≠ .redis) : p.kept (c.withRating account rating) = p.kept c := by
    funext slot
    cases slot with
    | rating account' =>
        rw [Places.kept, Places.kept, Places.keeps, decide_eq_false hne]
        rfl
    | _ => rfl
  obtain ⟨hp, hs⟩ | ⟨hp, hs, hopen⟩ | ⟨hp, hopen, commits, hs⟩ := h.ratingPlace
  · refine ⟨{ s with ratings := .memory (c.ratings.insert account rating) }, ?_, h.quizzes, ?_, ?_,
      h.redisPool, h.mysqlPool⟩
    · simp only [Stores.saveRating, hs]
    · rw [hp]
      rfl
    · rw [hother (by simp [hp])]
      exact h.keySpace
  · refine ⟨{ s with keySpace := s.keySpace.putInteger (Key.rating account) rating }, ?_,
      h.quizzes, ?_, ?_, h.redisPool, h.mysqlPool⟩
    · have hsave : s.saveRating account rating =
          s.writeKeys fun ks => .ok (ks.putInteger (Key.rating account) rating) := by
        simp only [Stores.saveRating, hs]
      rw [hsave, writeKeys_of_isOpen hopen]
      rfl
    · rw [hp]
      exact hs
    · rw [Places.kept_update (.rating account) (decide_eq_true hp)
        (c.entryOf?_withRating account rating)]
      exact h.keySpace.insert (.rating account) _
  · refine ⟨{ s with ratings := .mysql ⟨c.ratings.insert account rating, commits + 1⟩ }, ?_,
      h.quizzes, ?_, ?_, h.redisPool, h.mysqlPool⟩
    · simp only [Stores.saveRating, hs, Pool.acquire, hopen]
      rfl
    · rw [hp]
      exact ⟨commits + 1, rfl⟩
    · rw [hother (by simp [hp])]
      exact h.keySpace

/-! ### Empty stores -/

/-- The stores that settings ask for hold nothing. -/
theorem ofSettings (settings : Settings) :
    (Stores.ofSettings settings).Holds settings.places {} := by
  refine ⟨?_, ?_, ⟨?_, ?_⟩, ?_, ?_⟩
  · simp only [Settings.places, Stores.ofSettings]
    cases settings.storageBackend with
    | memory => rfl
    | redis => rfl
  · simp only [Settings.places, Stores.ofSettings]
    cases settings.effectiveRatingBackend with
    | memory => rfl
    | redis => rfl
    | mysql => exact ⟨1, rfl⟩
  · intro slot
    rw [Places.kept]
    cases slot <;> split <;> rfl
  · intro name _
    rfl
  · intro hp
    have huses : usesRedis settings.storageBackend settings.effectiveRatingBackend = true := by
      rw [usesRedis, Bool.or_eq_true]
      exact hp.imp (fun hp => decide_eq_true hp) fun hp => decide_eq_true hp
    simp only [Stores.ofSettings, if_pos huses]
    rfl
  · intro hp
    simp only [Stores.ofSettings, if_pos (show settings.effectiveRatingBackend = .mysql from hp)]
    rfl

end Holds

end Stores

end QuizHall
