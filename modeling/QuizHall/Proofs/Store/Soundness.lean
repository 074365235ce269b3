import QuizHall.Proofs.Store.Holds

/-!
# Sound Stores

Stores are **sound** if whatever is kept in them makes sense and can be read. This is said about the
stores themselves, and about every entry of a key space. What it rests on is said about contents:
quizzes and keys come in pairs, quizzes have owners, keys name options and no bucket is empty. A
change that succeeds keeps this up if what it brings in is of that kind.

## Main definitions

* `Stores.Sound`: what is true of the stores of every hall that is in use.
* `Contents.WellFormed`, `Stores.WellFormed`: contents that make sense, and stores that hold such.

## Main results

* `WellFormed.createQuiz`, `WellFormed.deleteQuiz`, `WellFormed.appendBucket`,
  `WellFormed.drainBucket`, `WellFormed.putCounter`, `WellFormed.saveRating`: every change leaves
  well-formed stores behind.
* `WellFormed.sound`: well-formed stores are sound.
-/

namespace QuizHall

/-! ### What stores may be expected to be -/

/-- An entry **decodes** in a slot if it is read as what belongs there: a quiz, a key, some ids, or
an integer. -/
def Slot.Decodes : Slot → Entry → Prop
  | .quiz _, .bytes data => ∃ quiz, KeySpace.readRecord (Quiz.ofValue .json) data = .ok (some quiz)
  | .solution _, .bytes data =>
    ∃ key, KeySpace.readRecord (Answers.ofValue .json) data = .ok (some key)
  | .bucket _, .list items => ∃ ids, KeySpace.readTexts items = .ok ids
  | .rating _, .bytes data => ∃ n, KeySpace.readInteger data = .ok n
  | .counter, .bytes data => ∃ n, KeySpace.readInteger data = .ok n
  | _, _ => False

namespace Stores

/-- Whether something is kept in a table in memory, or else under a name of the key space, be it
readable or not. -/
def keeps (s : Stores) (inMemory : MemoryStore → Bool) (name : String) : Bool :=
  match s.quizzes with
  | .memory m => inMemory m
  | .redis => s.keySpace.contains name

/-- Whether a quiz is kept under an id. -/
def keepsQuiz (s : Stores) (id : String) : Bool :=
  s.keeps (fun m => m.quizzes.contains id) (Key.quiz id)

/-- Whether a key is kept under an id. -/
def keepsKey (s : Stores) (id : String) : Bool :=
  s.keeps (fun m => m.keys.contains id) (Key.solution id)

/-- Whether a bucket is kept under an id, with or without ids in it. -/
def keepsBucket (s : Stores) (bucket : String) : Bool :=
  s.keeps (fun m => m.buckets.contains bucket) (Key.bucket bucket)

/-- Stores are **readable** if no way of reading them fails. -/
structure Readable (s : Stores) : Prop where
  /-- Quizzes can be looked up. -/
  quiz? : ∀ id, ∃ quiz?, s.quiz? id = .ok quiz?
  /-- Keys can be looked up. -/
  key? : ∀ id, ∃ key?, s.key? id = .ok key?
  /-- Buckets can be looked up. -/
  bucket : ∀ bucket, ∃ ids, s.bucket bucket = .ok ids
  /-- Buckets can be emptied, and no entry is lost. -/
  drainBucket : ∀ bucket, ∃ ids s', s.drainBucket bucket = .ok (.ok ids, s')
  /-- The counter can be looked up. -/
  counter : ∃ n, s.counter = .ok n
  /-- Ratings can be looked up. -/
  rating : ∀ account, ∃ n, s.rating account = .ok n

/-- Stores are **sound** if quizzes and keys come in pairs, everything that is kept is as it should
be, and everything can be read. Whether the fifth answer of a key is checked is a matter of the
rules. -/
structure Sound (s : Stores) (checksAllAnswers : Bool) : Prop where
  /-- A quiz is kept under an id if and only if a key is. -/
  paired : ∀ id, s.keepsQuiz id ↔ s.keepsKey id
  /-- A quiz belongs to somebody, has five questions, and a gate of one byte. -/
  quiz : ∀ id, s.keepsQuiz id → ∃ quiz, s.quiz? id = .ok (some quiz) ∧
    quiz.owner ≠ "" ∧ quiz.questions.length = 5 ∧ quiz.gate.val ≤ 255
  /-- The answers of a key are options, but for the fifth one if it is not checked. -/
  key : ∀ id, s.keepsKey id → ∃ key, s.key? id = .ok (some key) ∧
    (∀ n ∈ [key.answer1, key.answer2, key.answer3, key.answer4], 1 ≤ n.val ∧ n.val ≤ 4) ∧
    key.answer5.val ≤ 255 ∧
    (checksAllAnswers = true → 1 ≤ key.answer5.val ∧ key.answer5.val ≤ 4)
  /-- There are ids in every bucket. -/
  bucket : ∀ bucket, s.keepsBucket bucket → ∃ ids, s.bucket bucket = .ok ids ∧ ids ≠ []
  /-- Every entry of the key space belongs to a slot, and decodes there. -/
  decodes : ∀ name entry, s.keySpace.find? name = some entry →
    ∃ slot : Slot, slot.name = name ∧ slot.Decodes entry
  /-- No way of reading fails. -/
  readable : s.Readable

end Stores

/-! ### Contents that make sense -/

/-- Contents are **well formed** if quizzes and keys come in pairs, quizzes have owners, keys name
options and buckets have entries. -/
structure Contents.WellFormed (c : Contents) (checksAllAnswers : Bool) : Prop where
  /-- A quiz is there if and only if its key is. -/
  paired : ∀ id, c.quizzes.contains id = c.keys.contains id
  /-- Every quiz belongs to somebody. -/
  owned : ∀ id quiz, c.quizzes.find? id = some quiz → quiz.owner ≠ ""
  /-- Every key names options. -/
  options : ∀ id key, c.keys.find? id = some key → key.areOptions checksAllAnswers
  /-- There are ids in every bucket. -/
  scheduled : ∀ bucket ids, c.buckets.find? bucket = some ids → ids ≠ []

namespace Contents.WellFormed

variable {c : Contents} {checksAllAnswers : Bool}

/-- Where there is nothing, nothing is wrong. -/
theorem empty (checksAllAnswers : Bool) : WellFormed {} checksAllAnswers := by
  constructor
  case paired => exact fun _ => rfl
  all_goals
    intro _ _ hfind
    cases hfind

/-- A quiz is stored together with its key. -/
theorem withQuiz (h : c.WellFormed checksAllAnswers) {quiz : Quiz} {key : Answers}
    (howner : quiz.owner ≠ "") (hkey : key.areOptions checksAllAnswers) (id : String) :
    (c.withQuiz id quiz key).WellFormed checksAllAnswers := by
  constructor
  case paired =>
    intro id'
    have hpaired := h.paired id'
    simp only [Contents.withQuiz, Table.contains, Table.find?_insert] at hpaired ⊢
    split
    · rfl
    · exact hpaired
  case owned =>
    intro id' quiz' hfind
    rw [Contents.withQuiz, Table.find?_insert] at hfind
    split at hfind
    · obtain rfl := Option.some.inj hfind
      exact howner
    · exact h.owned id' quiz' hfind
  case options =>
    intro id' key' hfind
    rw [Contents.withQuiz, Table.find?_insert] at hfind
    split at hfind
    · obtain rfl := Option.some.inj hfind
      exact hkey
    · exact h.options id' key' hfind
  case scheduled => exact h.scheduled

/-- A quiz is removed together with its key. -/
theorem withoutQuiz (h : c.WellFormed checksAllAnswers) (id : String) :
    (c.withoutQuiz id).WellFormed checksAllAnswers := by
  constructor
  case paired =>
    intro id'
    have hpaired := h.paired id'
    simp only [Contents.withoutQuiz, MemoryStore.deleteQuiz, Table.contains,
      Table.find?_erase] at hpaired ⊢
    split
    · rfl
    · exact hpaired
  case owned =>
    intro id' quiz hfind
    rw [Contents.withoutQuiz, MemoryStore.deleteQuiz, Table.find?_erase] at hfind
    split at hfind
    · cases hfind
    · exact h.owned id' quiz hfind
  case options =>
    intro id' key hfind
    rw [Contents.withoutQuiz, MemoryStore.deleteQuiz, Table.find?_erase] at hfind
    split at hfind
    · cases hfind
    · exact h.options id' key hfind
  case scheduled => exact h.scheduled

/-- The bucket in which an id is scheduled is not empty. -/
theorem scheduling (h : c.WellFormed checksAllAnswers) (bucket id : String) :
    (c.scheduling bucket id).WellFormed checksAllAnswers := by
  refine ⟨h.paired, h.owned, h.options, ?_⟩
  intro bucket' ids hfind
  rw [Contents.scheduling, MemoryStore.appendBucket, Table.find?_insert] at hfind
  split at hfind
  · obtain rfl := Option.some.inj hfind
    simp
  · exact h.scheduled bucket' ids hfind

/-- A bucket is removed as a whole. -/
theorem withoutBucket (h : c.WellFormed checksAllAnswers) (bucket : String) :
    (c.withoutBucket bucket).WellFormed checksAllAnswers := by
  refine ⟨h.paired, h.owned, h.options, ?_⟩
  intro bucket' ids hfind
  rw [Contents.withoutBucket, MemoryStore.removeBucket, Table.find?_erase] at hfind
  split at hfind
  · cases hfind
  · exact h.scheduled bucket' ids hfind

end Contents.WellFormed

/-- **Every entry decodes** in its slot, if the numbers are in range. -/
theorem Contents.InRange.decodes {c : Contents} (h : c.InRange) {slot : Slot} {entry : Entry}
    (hentry : c.entryOf? slot = some entry) : slot.Decodes entry := by
  cases slot with
  | quiz id =>
      obtain ⟨quiz, -, rfl⟩ := Option.map_eq_some_iff.mp hentry
      exact ⟨quiz, KeySpace.readRecord_quiz quiz⟩
  | solution id =>
      obtain ⟨key, -, rfl⟩ := Option.map_eq_some_iff.mp hentry
      exact ⟨key, KeySpace.readRecord_key key⟩
  | bucket id =>
      obtain ⟨ids, -, rfl⟩ := Option.map_eq_some_iff.mp hentry
      exact ⟨ids, KeySpace.readTexts_toUTF8 ids⟩
  | rating account =>
      obtain ⟨rating, hfind, rfl⟩ := Option.map_eq_some_iff.mp hentry
      refine ⟨rating, KeySpace.readInteger_text (Fault.lt_unwritable ?_)⟩
      obtain ⟨hmin, hmax⟩ := h.rating account rating hfind
      rw [maxScore] at hmax
      omega
  | counter =>
      rw [entryOf?] at hentry
      split at hentry
      · cases hentry
      · obtain rfl := Option.some.inj hentry
        refine ⟨c.counter, KeySpace.readInteger_text (Fault.lt_unwritable ?_)⟩
        have hmin := h.counter_nonneg
        have hmax := h.counter_le
        rw [u64Max] at hmax
        omega

/-- The answers that are looked at are options if each of them is one of the four. -/
theorem Answers.areOptions_iff {key : Answers} {all : Bool} :
    key.areOptions all ↔
      ∀ n ∈ if all then key.toList else key.toList.take 4, 1 ≤ n.val ∧ n.val ≤ 4 := by
  rw [areOptions, List.all_eq_true]
  exact forall₂_congr fun n _ => decide_eq_true_iff

/-- The first four answers of a key that names options are options, and so is the fifth one if it is
checked. -/
theorem Answers.options_of_areOptions {key : Answers} {all : Bool} (h : key.areOptions all) :
    (∀ n ∈ [key.answer1, key.answer2, key.answer3, key.answer4], 1 ≤ n.val ∧ n.val ≤ 4) ∧
      (all = true → 1 ≤ key.answer5.val ∧ key.answer5.val ≤ 4) := by
  have hchecked := areOptions_iff.mp h
  cases all with
  | false => exact ⟨hchecked, fun hall => by cases hall⟩
  | true =>
      refine ⟨fun n hn => hchecked n ?_, fun _ => hchecked key.answer5 (by simp [toList])⟩
      have hfirst : n ∈ key.toList.take 4 := hn
      exact List.mem_of_mem_take hfirst

namespace Stores

/-- Stores are **well formed** if they hold contents that are. -/
def WellFormed (p : Places) (checksAllAnswers : Bool) (s : Stores) : Prop :=
  ∃ c, s.Holds p c ∧ c.InRange ∧ c.WellFormed checksAllAnswers

/-! ### Changes -/

namespace WellFormed

variable {s s' : Stores} {p : Places} {checksAllAnswers : Bool}

/-- The empty stores that settings ask for are well formed. -/
theorem ofSettings (settings : Settings) (checksAllAnswers : Bool) :
    WellFormed settings.places checksAllAnswers (Stores.ofSettings settings) :=
  ⟨{}, Holds.ofSettings settings, .empty, .empty checksAllAnswers⟩

/-- A quiz with an owner is stored with a key that names options. -/
theorem createQuiz (h : s.WellFormed p checksAllAnswers) {id : String} {quiz : Quiz}
    {key : Answers} (howner : quiz.owner ≠ "") (hkey : key.areOptions checksAllAnswers)
    (hcreate : s.createQuiz id quiz key = .ok s') : s'.WellFormed p checksAllAnswers := by
  obtain ⟨c, hholds, hrange, hc⟩ := h
  by_cases htaken : c.quizzes.contains id ∨ c.keys.contains id
  · rw [hholds.createQuiz_taken htaken] at hcreate
    cases hcreate
  · obtain ⟨hquiz, hnoKey⟩ : c.quizzes.find? id = none ∧ c.keys.find? id = none := by
      simpa [Table.contains] using htaken
    obtain ⟨s'', hstored, hholds'⟩ := hholds.createQuiz hquiz hnoKey quiz key
    obtain rfl := Except.ok.inj (hstored.symm.trans hcreate)
    exact ⟨_, hholds', hrange.of_eq rfl rfl, hc.withQuiz howner hkey id⟩

/-- A quiz is removed. -/
theorem deleteQuiz (h : s.WellFormed p checksAllAnswers) {id : String}
    (hdelete : s.deleteQuiz id = .ok s') : s'.WellFormed p checksAllAnswers := by
  obtain ⟨c, hholds, hrange, hc⟩ := h
  obtain ⟨s'', hremoved, hholds'⟩ := hholds.deleteQuiz id
  obtain rfl := Except.ok.inj (hremoved.symm.trans hdelete)
  exact ⟨_, hholds', hrange.of_eq rfl rfl, hc.withoutQuiz id⟩

/-- An id is scheduled. -/
theorem appendBucket (h : s.WellFormed p checksAllAnswers) {bucket id : String}
    (happend : s.appendBucket bucket id = .ok s') : s'.WellFormed p checksAllAnswers := by
  obtain ⟨c, hholds, hrange, hc⟩ := h
  obtain ⟨s'', hscheduled, hholds'⟩ := hholds.appendBucket bucket id
  obtain rfl := Except.ok.inj (hscheduled.symm.trans happend)
  exact ⟨_, hholds', hrange.of_eq rfl rfl, hc.scheduling bucket id⟩

/-- A bucket is emptied, and goes with its entries. -/
theorem drainBucket (h : s.WellFormed p checksAllAnswers) {bucket : String}
    {ids? : Except Fault (List String)} (hdrain : s.drainBucket bucket = .ok (ids?, s')) :
    s'.WellFormed p checksAllAnswers := by
  obtain ⟨c, hholds, hrange, hc⟩ := h
  obtain ⟨s'', hemptied, hholds'⟩ := hholds.drainBucket bucket
  obtain ⟨-, rfl⟩ := Prod.mk.inj (Except.ok.inj (hemptied.symm.trans hdrain))
  exact ⟨_, hholds', hrange.of_eq rfl rfl, hc.withoutBucket bucket⟩

/-- The counter moves on to a number that has an id. -/
theorem putCounter (h : s.WellFormed p checksAllAnswers) {n : Int} (hn : s.counter = .ok n)
    (hle : n + 1 ≤ (u64Max : Int)) (hput : s.putCounter (n + 1) = .ok s') :
    s'.WellFormed p checksAllAnswers := by
  obtain ⟨c, hholds, hrange, hc⟩ := h
  obtain rfl : c.counter = n := Except.ok.inj ((hholds.counter hrange).symm.trans hn)
  have hmin := hrange.counter_nonneg
  obtain ⟨s'', hcounted, hholds'⟩ := hholds.putCounter hmin (Int.lt_succ c.counter)
  obtain rfl := Except.ok.inj (hcounted.symm.trans hput)
  refine ⟨_, hholds', ⟨?_, hle, hrange.rating⟩, hc.paired, hc.owned, hc.options, hc.scheduled⟩
  change 0 ≤ c.counter + 1
  omega

/-- A score is blended into a rating. -/
theorem saveRating (h : s.WellFormed p checksAllAnswers) {account : String} {rating : Int}
    (hrating : 0 ≤ rating ∧ rating ≤ (maxScore : Int))
    (hsave : s.saveRating account rating = .ok s') : s'.WellFormed p checksAllAnswers := by
  obtain ⟨c, hholds, hrange, hc⟩ := h
  obtain ⟨s'', hsaved, hholds'⟩ := hholds.saveRating account rating
  obtain rfl := Except.ok.inj (hsaved.symm.trans hsave)
  exact ⟨_, hholds', hrange.withRating hrating account, hc.paired, hc.owned, hc.options,
    hc.scheduled⟩

/-- A rating that is read is in range. -/
theorem rating_bounds (h : s.WellFormed p checksAllAnswers) {account : String} {n : Int}
    (hn : s.rating account = .ok n) : 0 ≤ n ∧ n ≤ (maxScore : Int) := by
  obtain ⟨c, hholds, hrange, -⟩ := h
  obtain rfl : c.rating account = n :=
    Except.ok.inj ((hholds.rating hrange account).symm.trans hn)
  exact hrange.rating_bounds account

end WellFormed

/-! ### Well-formed stores are sound -/

namespace Holds

variable {s : Stores} {p : Places} {c : Contents}

/-- What is kept in a slot is what the contents have for it. -/
theorem keeps (h : s.Holds p c) (slot : Slot) (inMemory : MemoryStore → Bool)
    (hslot : p.keeps slot = decide (p.storage = .redis))
    (hmemory : inMemory c.toMemoryStore = (c.entryOf? slot).isSome) :
    s.keeps inMemory slot.name = (c.entryOf? slot).isSome := by
  rcases h.quizPlace with ⟨-, hs⟩ | ⟨hp, hs, -⟩
  · simp only [Stores.keeps, hs]
    exact hmemory
  · simp only [Stores.keeps, hs, Table.contains]
    rw [h.slot slot (hslot.trans (decide_eq_true hp))]

/-- A quiz is kept if the contents have one. -/
theorem keepsQuiz (h : s.Holds p c) (id : String) : s.keepsQuiz id = c.quizzes.contains id := by
  have hkeeps := h.keeps (.quiz id) (fun m => m.quizzes.contains id) rfl
  simp only [Contents.entryOf?, Option.isSome_map] at hkeeps
  exact hkeeps rfl

/-- A key is kept if the contents have one. -/
theorem keepsKey (h : s.Holds p c) (id : String) : s.keepsKey id = c.keys.contains id := by
  have hkeeps := h.keeps (.solution id) (fun m => m.keys.contains id) rfl
  simp only [Contents.entryOf?, Option.isSome_map] at hkeeps
  exact hkeeps rfl

/-- A bucket is kept if the contents have one. -/
theorem keepsBucket (h : s.Holds p c) (bucket : String) :
    s.keepsBucket bucket = c.buckets.contains bucket := by
  have hkeeps := h.keeps (.bucket bucket) (fun m => m.buckets.contains bucket) rfl
  simp only [Contents.entryOf?, Option.isSome_map] at hkeeps
  exact hkeeps rfl

/-- **Every entry of the key space decodes** in the slot that it belongs to. -/
theorem decodes (h : s.Holds p c) (hrange : c.InRange) {name : String} {entry : Entry}
    (hfind : s.keySpace.find? name = some entry) :
    ∃ slot : Slot, slot.name = name ∧ slot.Decodes entry := by
  by_cases hslot : ∃ slot : Slot, slot.name = name
  · obtain ⟨slot, rfl⟩ := hslot
    rw [h.keySpace.slots, Places.kept] at hfind
    split at hfind
    · exact ⟨slot, rfl, hrange.decodes hfind⟩
    · cases hfind
  · have hnone := h.keySpace.nothingElse name fun slot hname => hslot ⟨slot, hname⟩
    rw [hnone] at hfind
    cases hfind

/-- **Stores that hold contents can be read** in every way. -/
theorem readable (h : s.Holds p c) (hrange : c.InRange) : s.Readable where
  quiz? := fun id => ⟨_, h.quiz? id⟩
  key? := fun id => ⟨_, h.key? id⟩
  bucket := fun bucket => ⟨_, h.bucket bucket⟩
  drainBucket := fun bucket => by
    obtain ⟨s', hdrain, -⟩ := h.drainBucket bucket
    exact ⟨_, s', hdrain⟩
  counter := ⟨_, h.counter hrange⟩
  rating := fun account => ⟨_, h.rating hrange account⟩

end Holds

/-- **Well-formed stores are sound.** -/
theorem WellFormed.sound {s : Stores} {p : Places} {checksAllAnswers : Bool}
    (h : s.WellFormed p checksAllAnswers) : s.Sound checksAllAnswers := by
  obtain ⟨c, hholds, hrange, hc⟩ := h
  constructor
  case paired =>
    intro id
    rw [hholds.keepsQuiz, hholds.keepsKey, hc.paired]
  case quiz =>
    intro id hkept
    rw [hholds.keepsQuiz] at hkept
    obtain ⟨quiz, hfind⟩ := Option.isSome_iff_exists.mp hkept
    refine ⟨quiz, ?_, hc.owned id quiz hfind, quiz.size_questions, by omega⟩
    rw [hholds.quiz?, hfind]
  case key =>
    intro id hkept
    rw [hholds.keepsKey] at hkept
    obtain ⟨key, hfind⟩ := Option.isSome_iff_exists.mp hkept
    obtain ⟨hfirst, hfifth⟩ := Answers.options_of_areOptions (hc.options id key hfind)
    refine ⟨key, ?_, hfirst, by omega, hfifth⟩
    rw [hholds.key?, hfind]
  case bucket =>
    intro bucket hkept
    rw [hholds.keepsBucket] at hkept
    obtain ⟨ids, hfind⟩ := Option.isSome_iff_exists.mp hkept
    refine ⟨ids, ?_, hc.scheduled bucket ids hfind⟩
    rw [hholds.bucket, MemoryStore.bucket, hfind]
    rfl
  case decodes => exact fun _ _ hfind => hholds.decodes hrange hfind
  case readable => exact hholds.readable hrange

end Stores

end QuizHall
