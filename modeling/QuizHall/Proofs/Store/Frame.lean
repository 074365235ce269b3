import QuizHall.Proofs.Store.Holds

/-!
# What a Change of the Stores Touches

The laws of `Holds` speak of stores that hold well-formed contents. The ones here ask for nothing:
a counter may be anywhere, a key space may have been filled with whatever bytes, and it may even be
out of reach. Whatever the stores are, a change that succeeds touches the slots that it is about,
and every other slot reads as before, be it a value, nothing or a fault.

A change also says something about the reads that come before and after it. What was stored under a
free id can be taken out again without a trace, a counter that could be read can be moved, and a
rating that could be read can be replaced. It is for this reason that an operation can make all of
its checks before it changes anything.

## Main results

* `agreeOn_createQuiz`, `agreeOn_deleteQuiz`, `agreeOn_appendBucket`, `agreeOn_drainBucket`,
  `agreeOn_putCounter`, `agreeOn_saveRating`: what each change leaves as it was.
* `deleteQuiz_createQuiz`: taking out what was just stored gives back the same stores.
* `drainBucket_eq_ok`: what comes of a bucket that is emptied.
* `exists_putCounter`, `exists_saveRating`: what can be read can be written.
* `counter_putCounter`, `rating_saveRating`: what was written is read back.
-/

namespace QuizHall

/-! ### Reading a slot -/

/-- Two stores in memory **agree** on a slot if it is the same in both. -/
def MemoryStore.AgreeOn (m m' : MemoryStore) : Slot → Prop
  | .quiz id => m'.quizzes.find? id = m.quizzes.find? id
  | .solution id => m'.keys.find? id = m.keys.find? id
  | .bucket id => m'.bucket id = m.bucket id
  | .rating _ => True
  | .counter => m'.counter = m.counter

namespace Stores

/-- The entries of a bucket as they are kept, whether they can be read or not. -/
def entriesIn (s : Stores) (bucket : String) : List ByteArray :=
  match s.quizzes with
  | .memory m => (m.bucket bucket).map String.toUTF8
  | .redis =>
    match s.keySpace.find? (Key.bucket bucket) with
    | some (.list items) => items
    | _ => []

/-- Two stores **agree** on a slot if it reads the same in both: a value, nothing or a fault. For a
bucket even the bytes of its entries are the same. -/
def AgreeOn (s s' : Stores) : Slot → Prop
  | .quiz id => s'.quiz? id = s.quiz? id
  | .solution id => s'.key? id = s.key? id
  | .bucket id => s'.entriesIn id = s.entriesIn id
  | .rating account => s'.rating account = s.rating account
  | .counter => s'.counter = s.counter

variable {s s' : Stores}

theorem AgreeOn.refl (s : Stores) (slot : Slot) : s.AgreeOn s slot := by
  cases slot <;> rfl

theorem AgreeOn.trans {s'' : Stores} {slot : Slot} (h : s.AgreeOn s' slot)
    (h' : s'.AgreeOn s'' slot) : s.AgreeOn s'' slot := by
  cases slot <;> exact Eq.trans h' h

/-- What a key space has under the name of a slot is all that is read from it. -/
theorem agreeOn_of_find? {ks : KeySpace} {slot : Slot}
    (h : ks.find? slot.name = s.keySpace.find? slot.name) :
    s.AgreeOn { s with keySpace := ks } slot := by
  cases slot with
  | quiz id =>
      simp only [Slot.name] at h
      simp only [AgreeOn, Stores.quiz?, readKeys, KeySpace.quiz?, KeySpace.record?,
        KeySpace.bytes?, h]
  | solution id =>
      simp only [Slot.name] at h
      simp only [AgreeOn, Stores.key?, readKeys, KeySpace.key?, KeySpace.record?,
        KeySpace.bytes?, h]
  | bucket id =>
      simp only [Slot.name] at h
      simp only [AgreeOn, entriesIn, h]
  | rating account =>
      simp only [Slot.name] at h
      simp only [AgreeOn, Stores.rating, readKeys, KeySpace.integer, KeySpace.bytes?, h]
  | counter =>
      simp only [Slot.name] at h
      simp only [AgreeOn, Stores.counter, readKeys, KeySpace.integer, KeySpace.bytes?, h]

/-- What is in memory is all that is read from there. -/
theorem agreeOn_of_memory {m m' : MemoryStore} (hs : s.quizzes = .memory m) {slot : Slot}
    (h : m.AgreeOn m' slot) : s.AgreeOn { s with quizzes := .memory m' } slot := by
  cases slot with
  | quiz id => simpa only [AgreeOn, Stores.quiz?, hs] using congrArg Except.ok h
  | solution id => simpa only [AgreeOn, Stores.key?, hs] using congrArg Except.ok h
  | bucket id =>
      simp only [AgreeOn, entriesIn, hs]
      exact congrArg (List.map String.toUTF8) h
  | rating account => rfl
  | counter => simpa only [AgreeOn, Stores.counter, hs] using congrArg Except.ok h

/-! ### The key space behind its pool -/

/-- A key space that was read was in reach. -/
theorem isOpen_of_readKeys {α : Type} {f : KeySpace → Except Fault α} {a : α}
    (h : s.readKeys f = .ok a) : s.redisPool.isOpen = true := by
  cases hopen : s.redisPool.isOpen with
  | false =>
      rw [readKeys, Pool.acquire, hopen] at h
      cases h
  | true => rfl

/-- A key space that was changed was in reach, and it is all that has changed. -/
theorem writeKeys_eq_ok {f : KeySpace → Except Fault KeySpace} (h : s.writeKeys f = .ok s') :
    s.redisPool.isOpen = true ∧ ∃ ks, f s.keySpace = .ok ks ∧ s' = { s with keySpace := ks } := by
  cases hopen : s.redisPool.isOpen with
  | false =>
      rw [writeKeys, Pool.acquire, hopen] at h
      cases h
  | true =>
      rw [writeKeys_of_isOpen hopen] at h
      cases hf : f s.keySpace with
      | error e =>
          rw [hf] at h
          cases h
      | ok ks =>
          rw [hf] at h
          exact ⟨rfl, ks, rfl, (Except.ok.inj h).symm⟩

/-! ### Quizzes -/

/-- **Storing a quiz** under an id tells that nothing was kept there, neither a quiz nor a key. -/
theorem createQuiz_eq_ok {id : String} {quiz : Quiz} {key : Answers}
    (h : s.createQuiz id quiz key = .ok s') :
    (∃ m, s.quizzes = .memory m ∧ m.quizzes.find? id = none ∧ m.keys.find? id = none ∧
      s' = { s with
        quizzes := .memory
          { m with quizzes := m.quizzes.insert id quiz, keys := m.keys.insert id key } }) ∨
    (s.quizzes = .redis ∧ s.redisPool.isOpen = true ∧ s.keySpace.find? (Key.quiz id) = none ∧
      s.keySpace.find? (Key.solution id) = none ∧
      s' = { s with
        keySpace := (s.keySpace.putText (Key.quiz id) quiz.toValue.compact).putText
          (Key.solution id) key.toValue.compact }) := by
  cases hs : s.quizzes with
  | memory m =>
      simp only [Stores.createQuiz, hs, MemoryStore.createQuiz] at h
      split at h
      · cases h
      · next hfree =>
        obtain ⟨hquiz, hkey⟩ : m.quizzes.find? id = none ∧ m.keys.find? id = none := by
          simpa [Table.contains] using hfree
        exact .inl ⟨m, rfl, hquiz, hkey, (Except.ok.inj h).symm⟩
  | redis =>
      simp only [Stores.createQuiz, hs] at h
      obtain ⟨hopen, ks, hks, rfl⟩ := writeKeys_eq_ok h
      rw [KeySpace.createQuiz] at hks
      split at hks
      · cases hks
      · next hfree =>
        obtain ⟨hquiz, hkey⟩ : s.keySpace.find? (Key.quiz id) = none ∧
            s.keySpace.find? (Key.solution id) = none := by
          simpa [Table.contains] using hfree
        obtain rfl := Except.ok.inj hks
        refine .inr ⟨rfl, hopen, hquiz, hkey, ?_⟩
        rw [hs]

/-- Storing a quiz touches the two slots of its id. -/
theorem agreeOn_createQuiz {id : String} {quiz : Quiz} {key : Answers}
    (h : s.createQuiz id quiz key = .ok s') {slot : Slot} (hquiz : slot ≠ .quiz id)
    (hkey : slot ≠ .solution id) : s.AgreeOn s' slot := by
  obtain ⟨m, hs, -, -, rfl⟩ | ⟨-, -, -, -, rfl⟩ := createQuiz_eq_ok h
  · refine agreeOn_of_memory hs ?_
    cases slot with
    | quiz id' =>
        have hne : id' ≠ id := fun heq => hquiz (congrArg Slot.quiz heq)
        exact (Table.find?_insert ..).trans (if_neg hne)
    | solution id' =>
        have hne : id' ≠ id := fun heq => hkey (congrArg Slot.solution heq)
        exact (Table.find?_insert ..).trans (if_neg hne)
    | bucket id' => rfl
    | rating account => trivial
    | counter => rfl
  · refine agreeOn_of_find? ?_
    rw [KeySpace.find?_stored, if_neg hkey, if_neg hquiz]

/-- What was just stored under an id is read from there, where nothing was read before. -/
theorem quiz?_createQuiz {id : String} {quiz : Quiz} {key : Answers}
    (h : s.createQuiz id quiz key = .ok s') :
    s.quiz? id = .ok none ∧ s'.quiz? id = .ok (some quiz) := by
  obtain ⟨m, hs, hfree, -, rfl⟩ | ⟨hs, hopen, hfree, -, rfl⟩ := createQuiz_eq_ok h
  · simp only [Stores.quiz?, hs, hfree, Table.find?_insert_self]
    trivial
  · have hstored := KeySpace.find?_stored s.keySpace id quiz.toValue.compact key.toValue.compact
      (.quiz id)
    rw [if_neg (by simp), if_pos rfl] at hstored
    simp only [Stores.quiz?, hs, readKeys, Pool.acquire, hopen]
    exact ⟨KeySpace.record?_of_none _ hfree, KeySpace.quiz?_ofText hstored⟩

/-- Removing a quiz touches the two slots of its id. -/
theorem agreeOn_deleteQuiz {id : String} (h : s.deleteQuiz id = .ok s') {slot : Slot}
    (hquiz : slot ≠ .quiz id) (hkey : slot ≠ .solution id) : s.AgreeOn s' slot := by
  cases hs : s.quizzes with
  | memory m =>
      simp only [Stores.deleteQuiz, hs] at h
      obtain rfl := Except.ok.inj h
      refine agreeOn_of_memory hs ?_
      cases slot with
      | quiz id' =>
          have hne : id' ≠ id := fun heq => hquiz (congrArg Slot.quiz heq)
          exact (Table.find?_erase ..).trans (if_neg hne)
      | solution id' =>
          have hne : id' ≠ id := fun heq => hkey (congrArg Slot.solution heq)
          exact (Table.find?_erase ..).trans (if_neg hne)
      | bucket id' => rfl
      | rating account => trivial
      | counter => rfl
  | redis =>
      simp only [Stores.deleteQuiz, hs] at h
      obtain ⟨-, ks, hks, rfl⟩ := writeKeys_eq_ok h
      obtain rfl := Except.ok.inj hks
      have hrest := Slot.find?_erase (s.keySpace.erase (Slot.quiz id).name) (.solution id) slot
      rw [if_neg hkey] at hrest
      exact agreeOn_of_find? (hrest.trans ((Slot.find?_erase ..).trans (if_neg hquiz)))

/-- **What was just stored can be taken out again without a trace.** -/
theorem deleteQuiz_createQuiz {id : String} {quiz : Quiz} {key : Answers}
    (h : s.createQuiz id quiz key = .ok s') : s'.deleteQuiz id = .ok s := by
  obtain ⟨m, hs, hquiz, hkey, rfl⟩ | ⟨hs, hopen, hquiz, hkey, rfl⟩ := createQuiz_eq_ok h
  · simp only [Stores.deleteQuiz, MemoryStore.deleteQuiz, Table.erase_insert hquiz,
      Table.erase_insert hkey, ← hs]
  · have hne : Key.solution id ≠ Key.quiz id :=
      mt (Slot.name_inj (s := .solution id) (t := .quiz id)).mp (by simp)
    simp only [Stores.deleteQuiz, hs, writeKeys, Pool.acquire, hopen, KeySpace.deleteQuiz,
      KeySpace.removeKey, KeySpace.putText, Table.erase_insert_of_ne _ hne,
      Table.erase_insert hquiz, Table.erase_insert hkey]
    rw [← hs]
    rfl

/-! ### Buckets and the counter -/

/-- Appending to a bucket puts the id at its end, behind whatever entries it has. -/
theorem entriesIn_appendBucket {bucket id : String} (h : s.appendBucket bucket id = .ok s') :
    s'.entriesIn bucket = s.entriesIn bucket ++ [id.toUTF8] := by
  cases hs : s.quizzes with
  | memory m =>
      simp only [Stores.appendBucket, hs] at h
      obtain rfl := Except.ok.inj h
      simp only [entriesIn, hs, MemoryStore.bucket, MemoryStore.appendBucket,
        Table.find?_insert_self, Option.getD_some, List.map_append, List.map_cons, List.map_nil]
  | redis =>
      simp only [Stores.appendBucket, hs] at h
      obtain ⟨-, ks, hks, rfl⟩ := writeKeys_eq_ok h
      rw [KeySpace.appendBucket, KeySpace.items] at hks
      simp only [entriesIn, hs]
      split at hks
      · next hnone =>
        obtain rfl := Except.ok.inj hks
        rw [hnone, Table.find?_insert_self]
      · next items hlist =>
        obtain rfl := Except.ok.inj hks
        rw [hlist, Table.find?_insert_self]
      · cases hks

/-- Appending to a bucket touches that bucket. -/
theorem agreeOn_appendBucket {bucket id : String} (h : s.appendBucket bucket id = .ok s')
    {slot : Slot} (hne : slot ≠ .bucket bucket) : s.AgreeOn s' slot := by
  cases hs : s.quizzes with
  | memory m =>
      simp only [Stores.appendBucket, hs] at h
      obtain rfl := Except.ok.inj h
      refine agreeOn_of_memory hs ?_
      cases slot with
      | bucket bucket' =>
          have hne' : bucket' ≠ bucket := fun heq => hne (congrArg Slot.bucket heq)
          simp only [MemoryStore.AgreeOn, MemoryStore.bucket, MemoryStore.appendBucket]
          rw [Table.find?_insert, if_neg hne']
      | quiz id' => rfl
      | solution id' => rfl
      | rating account => trivial
      | counter => rfl
  | redis =>
      simp only [Stores.appendBucket, hs] at h
      obtain ⟨-, ks, hks, rfl⟩ := writeKeys_eq_ok h
      rw [KeySpace.appendBucket] at hks
      cases hitems : s.keySpace.items (Key.bucket bucket) with
      | error e =>
          rw [hitems] at hks
          cases hks
      | ok items =>
          rw [hitems] at hks
          obtain rfl := Except.ok.inj hks
          exact agreeOn_of_find? ((Slot.find?_insert _ (.bucket bucket) slot _).trans (if_neg hne))

/-- Quizzes are **reachable** in memory, and in a key space that has a connection. -/
def Reachable (s : Stores) : Prop := s.quizzes = .redis → s.redisPool.isOpen = true

/-- A quiz can be removed wherever quizzes are reachable, and they stay so. -/
theorem Reachable.exists_deleteQuiz (h : s.Reachable) (id : String) :
    ∃ s', s.deleteQuiz id = .ok s' ∧ s'.Reachable := by
  cases hs : s.quizzes with
  | memory m =>
      simp only [Stores.deleteQuiz, hs]
      refine ⟨_, rfl, fun hs' => ?_⟩
      cases hs'
  | redis =>
      simp only [Stores.deleteQuiz, hs]
      exact ⟨_, writeKeys_of_isOpen (h hs) _, fun _ => h hs⟩

/-- **Emptying a bucket** gives what its entries are read as, once quizzes are reachable. -/
theorem drainBucket_eq_ok {bucket : String} {ids? : Except Fault (List String)}
    (h : s.drainBucket bucket = .ok (ids?, s')) :
    ids? = KeySpace.readTexts (s.entriesIn bucket) ∧ s'.Reachable := by
  cases hs : s.quizzes with
  | memory m =>
      simp only [Stores.drainBucket, hs] at h
      obtain ⟨rfl, rfl⟩ := Prod.mk.inj (Except.ok.inj h)
      simp only [entriesIn, hs, KeySpace.readTexts_toUTF8]
      refine ⟨trivial, fun hs' => ?_⟩
      cases hs'
  | redis =>
      cases hopen : s.redisPool.isOpen with
      | false =>
          simp only [Stores.drainBucket, hs, readKeys, Pool.acquire, hopen] at h
          cases h
      | true =>
          simp only [Stores.drainBucket, hs, readKeys_of_isOpen hopen, writeKeys_of_isOpen hopen,
            KeySpace.items] at h
          simp only [entriesIn, hs]
          cases hfind : s.keySpace.find? (Key.bucket bucket) with
          | none =>
              rw [hfind] at h
              obtain ⟨rfl, rfl⟩ := Prod.mk.inj (Except.ok.inj h)
              exact ⟨rfl, fun _ => hopen⟩
          | some entry =>
              rw [hfind] at h
              cases entry with
              | bytes data => cases h
              | list items =>
                  obtain ⟨rfl, rfl⟩ := Prod.mk.inj (Except.ok.inj h)
                  exact ⟨rfl, fun _ => hopen⟩

/-- Emptying a bucket touches that bucket. -/
theorem agreeOn_drainBucket {bucket : String} {ids? : Except Fault (List String)}
    (h : s.drainBucket bucket = .ok (ids?, s')) {slot : Slot} (hne : slot ≠ .bucket bucket) :
    s.AgreeOn s' slot := by
  cases hs : s.quizzes with
  | memory m =>
      simp only [Stores.drainBucket, hs] at h
      obtain ⟨-, rfl⟩ := Prod.mk.inj (Except.ok.inj h)
      refine agreeOn_of_memory hs ?_
      cases slot with
      | bucket bucket' =>
          have hne' : bucket' ≠ bucket := fun heq => hne (congrArg Slot.bucket heq)
          simp only [MemoryStore.AgreeOn, MemoryStore.bucket, MemoryStore.removeBucket]
          rw [Table.find?_erase, if_neg hne']
      | quiz id' => rfl
      | solution id' => rfl
      | rating account => trivial
      | counter => rfl
  | redis =>
      simp only [Stores.drainBucket, hs] at h
      cases hread : s.readKeys fun ks => ks.items (Key.bucket bucket) with
      | error e =>
          rw [hread] at h
          cases h
      | ok items =>
          have hopen := isOpen_of_readKeys hread
          rw [hread, writeKeys_of_isOpen hopen] at h
          obtain ⟨-, rfl⟩ := Prod.mk.inj (Except.ok.inj h)
          exact agreeOn_of_find? ((Slot.find?_erase _ (.bucket bucket) slot).trans (if_neg hne))

/-- Moving the counter touches the counter. -/
theorem agreeOn_putCounter {n : Int} (h : s.putCounter n = .ok s') {slot : Slot}
    (hne : slot ≠ .counter) : s.AgreeOn s' slot := by
  cases hs : s.quizzes with
  | memory m =>
      simp only [Stores.putCounter, hs, MemoryStore.putCounter] at h
      split at h
      · cases h
      · obtain rfl := Except.ok.inj h
        refine agreeOn_of_memory hs ?_
        cases slot with
        | counter => exact absurd rfl hne
        | quiz id => rfl
        | solution id => rfl
        | bucket id => rfl
        | rating account => trivial
  | redis =>
      simp only [Stores.putCounter, hs] at h
      obtain ⟨-, ks, hks, rfl⟩ := writeKeys_eq_ok h
      obtain rfl := Except.ok.inj hks
      exact agreeOn_of_find? ((Slot.find?_insert _ .counter slot _).trans (if_neg hne))

/-- **A counter that was moved is read back**, unless it is in a key space and too long. -/
theorem counter_putCounter {n : Int} (h : s.putCounter n = .ok s')
    (hn : n.natAbs < Fault.unwritable) : s'.counter = .ok n := by
  cases hs : s.quizzes with
  | memory m =>
      simp only [Stores.putCounter, hs, MemoryStore.putCounter] at h
      split at h
      · cases h
      · obtain rfl := Except.ok.inj h
        rfl
  | redis =>
      simp only [Stores.putCounter, hs] at h
      obtain ⟨hopen, ks, hks, rfl⟩ := writeKeys_eq_ok h
      obtain rfl := Except.ok.inj hks
      simp only [Stores.counter, hs, readKeys, Pool.acquire, hopen]
      exact KeySpace.integer_ofText (Table.find?_insert_self ..) hn

/-- **A counter that can be read can be moved** upwards, wherever it stands. -/
theorem exists_putCounter {n m : Int} (h : s.counter = .ok n) (hlt : n < m) :
    ∃ s', s.putCounter m = .ok s' := by
  cases hs : s.quizzes with
  | memory store =>
      simp only [Stores.counter, hs, Except.ok.injEq] at h
      have hle : ¬ m ≤ store.counter := by omega
      simp only [Stores.putCounter, hs, MemoryStore.putCounter, if_neg hle]
      exact ⟨_, rfl⟩
  | redis =>
      simp only [Stores.counter, hs] at h
      simp only [Stores.putCounter, hs]
      exact ⟨_, writeKeys_of_isOpen (isOpen_of_readKeys h) _⟩

/-- The counter stands where it was once a quiz is stored and scheduled. -/
theorem counter_of_scheduled {placed : Stores} {bucket id : String} {quiz : Quiz} {key : Answers}
    {n : Int} (hn : s.counter = .ok n) (hplaced : s.createQuiz id quiz key = .ok placed)
    (happend : placed.appendBucket bucket id = .ok s') : s'.counter = .ok n := by
  have hplacedFrame : s.AgreeOn placed .counter := agreeOn_createQuiz hplaced (by simp) (by simp)
  have hframe : s.AgreeOn s' .counter := hplacedFrame.trans (agreeOn_appendBucket happend (by simp))
  exact Eq.trans hframe hn

/-! ### Ratings -/

/-- Storing a rating touches the rating of the account. -/
theorem agreeOn_saveRating {account : String} {rating : Int}
    (h : s.saveRating account rating = .ok s') {slot : Slot} (hne : slot ≠ .rating account) :
    s.AgreeOn s' slot := by
  have hother {account' : String} (hslot : slot = .rating account') : account' ≠ account := by
    rintro rfl
    exact hne hslot
  cases hs : s.ratings with
  | memory ratings =>
      simp only [Stores.saveRating, hs] at h
      obtain rfl := Except.ok.inj h
      cases slot with
      | rating account' =>
          simp only [AgreeOn, Stores.rating, hs, Table.find?_insert, if_neg (hother rfl)]
      | _ => rfl
  | redis =>
      simp only [Stores.saveRating, hs] at h
      obtain ⟨-, ks, hks, rfl⟩ := writeKeys_eq_ok h
      obtain rfl := Except.ok.inj hks
      exact agreeOn_of_find? ((Slot.find?_insert _ (.rating account) slot _).trans (if_neg hne))
  | mysql table =>
      simp only [Stores.saveRating, hs, Pool.acquire] at h
      split at h
      · obtain rfl := Except.ok.inj h
        cases slot with
        | rating account' =>
            simp only [AgreeOn, Stores.rating, hs, RatingTable.rating, RatingTable.save,
              Table.find?_insert, if_neg (hother rfl)]
        | _ => rfl
      · cases h

/-- A rating that is read from a key space is short enough to be written there. -/
theorem natAbs_lt_of_rating {account : String} {n : Int} (hs : s.ratings = .redis)
    (h : s.rating account = .ok n) : n.natAbs < Fault.unwritable := by
  simp only [Stores.rating, hs] at h
  rw [readKeys_of_isOpen (isOpen_of_readKeys h)] at h
  exact KeySpace.natAbs_lt_of_integer h

/-- **A rating that was stored is read back**, unless it went into a key space and is too long. -/
theorem rating_saveRating {account : String} {n : Int} (h : s.saveRating account n = .ok s')
    (hn : s.ratings = .redis → n.natAbs < Fault.unwritable) : s'.rating account = .ok n := by
  cases hs : s.ratings with
  | memory ratings =>
      simp only [Stores.saveRating, hs] at h
      obtain rfl := Except.ok.inj h
      simp only [Stores.rating, Table.find?_insert_self, Option.getD_some]
  | redis =>
      simp only [Stores.saveRating, hs] at h
      obtain ⟨hopen, ks, hks, rfl⟩ := writeKeys_eq_ok h
      obtain rfl := Except.ok.inj hks
      simp only [Stores.rating, hs, readKeys, Pool.acquire, hopen]
      exact KeySpace.integer_ofText (Table.find?_insert_self ..) (hn hs)
  | mysql table =>
      simp only [Stores.saveRating, hs, Pool.acquire] at h
      split at h
      · next hopen =>
        obtain rfl := Except.ok.inj h
        simp only [Stores.rating, Pool.acquire, if_pos hopen, RatingTable.rating,
          RatingTable.save, Table.find?_insert_self, Option.getD_some]
        rfl
      · cases h

/-- **A rating that can be read can be replaced.** -/
theorem exists_saveRating {account : String} {n : Int} (h : s.rating account = .ok n) (m : Int) :
    ∃ s', s.saveRating account m = .ok s' := by
  cases hs : s.ratings with
  | memory ratings =>
      simp only [Stores.saveRating, hs]
      exact ⟨_, rfl⟩
  | redis =>
      simp only [Stores.rating, hs] at h
      simp only [Stores.saveRating, hs]
      exact ⟨_, writeKeys_of_isOpen (isOpen_of_readKeys h) _⟩
  | mysql table =>
      simp only [Stores.rating, hs, Pool.acquire] at h
      simp only [Stores.saveRating, hs, Pool.acquire]
      split at h
      · next hopen =>
        rw [if_pos hopen]
        exact ⟨_, rfl⟩
      · cases h

end Stores

end QuizHall
