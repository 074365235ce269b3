import QuizHall.Proofs.Store.Frame
import QuizHall.Proofs.Store.Soundness

/-!
# Changes That Succeed

`Frame` says what a change leaves as it was, once it has succeeded. This module says which changes
succeed, again whatever the stores are. All that can keep a change from succeeding is said by the
stores themselves: the key space may be out of reach, an id may be taken, and what stands under the
name of a bucket may be a text and no list.

What was read from a part of the stores tells that this part is in reach. So wherever an operation
has read a bucket or the counter before, nothing but a taken id or a text in place of a bucket is
left that could fail.

## Main results

* `Reachable.of_counter`, `Reachable.of_bucket`: what was read was in reach.
* `createQuiz_of_kept`, `exists_createQuiz`: an id is taken, or a quiz can be stored under it.
* `appendBucket_of_text`, `exists_appendBucket`, `exists_drainBucket`: what happens to a bucket.
* `bucket_appendBucket`, `bucket_drainBucket`: how buckets read after that.
-/

namespace QuizHall

/-- An id that stands behind texts is read behind them. -/
theorem KeySpace.readTexts_append {items : List ByteArray} {ids : List String}
    (h : readTexts items = .ok ids) (id : String) :
    readTexts (items ++ [id.toUTF8]) = .ok (ids ++ [id]) := by
  induction items generalizing ids with
  | nil =>
      obtain rfl := Except.ok.inj h
      exact readTexts_toUTF8 [id]
  | cons data items ih =>
      rw [readTexts] at h
      rw [List.cons_append, readTexts]
      cases hdata : String.fromUTF8? data with
      | none =>
          rw [hdata] at h
          cases h
      | some text =>
          rw [hdata] at h
          cases hrest : readTexts items with
          | error e =>
              rw [hrest] at h
              cases h
          | ok rest =>
              rw [hrest] at h
              obtain rfl := Except.ok.inj h
              rw [ih hrest]
              rfl

namespace Stores

variable {s s' : Stores}

/-! ### What is in reach -/

/-- A counter that was read was in reach. -/
theorem Reachable.of_counter {n : Int} (h : s.counter = .ok n) : s.Reachable := by
  intro hs
  simp only [Stores.counter, hs] at h
  exact isOpen_of_readKeys h

/-- A bucket that was read was in reach. -/
theorem Reachable.of_bucket {bucket : String} {ids : List String}
    (h : s.bucket bucket = .ok ids) : s.Reachable := by
  intro hs
  simp only [Stores.bucket, hs] at h
  exact isOpen_of_readKeys h

/-! ### Storing a quiz -/

/-- **No quiz is stored under an id at which something is kept**, be it readable or not. -/
theorem createQuiz_of_kept (h : s.Reachable) {id : String}
    (kept : s.keepsQuiz id ∨ s.keepsKey id) (quiz : Quiz) (key : Answers) :
    s.createQuiz id quiz key = .error (.idTaken id) := by
  cases hs : s.quizzes with
  | memory m =>
      simp only [keepsQuiz, keepsKey, Stores.keeps, hs] at kept
      simp only [Stores.createQuiz, hs, MemoryStore.createQuiz, if_pos kept]
      rfl
  | redis =>
      simp only [keepsQuiz, keepsKey, Stores.keeps, hs] at kept
      simp only [Stores.createQuiz, hs, writeKeys_of_isOpen (h hs), KeySpace.createQuiz,
        if_pos kept]
      rfl

/-- **A quiz is stored under an id at which nothing is kept.** -/
theorem exists_createQuiz (h : s.Reachable) {id : String}
    (free : ¬ (s.keepsQuiz id ∨ s.keepsKey id)) (quiz : Quiz) (key : Answers) :
    ∃ s', s.createQuiz id quiz key = .ok s' := by
  cases hs : s.quizzes with
  | memory m =>
      simp only [keepsQuiz, keepsKey, Stores.keeps, hs] at free
      simp only [Stores.createQuiz, hs, MemoryStore.createQuiz, if_neg free]
      exact ⟨_, rfl⟩
  | redis =>
      simp only [keepsQuiz, keepsKey, Stores.keeps, hs] at free
      simp only [Stores.createQuiz, hs, writeKeys_of_isOpen (h hs), KeySpace.createQuiz,
        if_neg free]
      exact ⟨_, rfl⟩

/-- The key that was just stored under an id is read from there. -/
theorem key?_createQuiz {id : String} {quiz : Quiz} {key : Answers}
    (h : s.createQuiz id quiz key = .ok s') : s'.key? id = .ok (some key) := by
  obtain ⟨m, hs, -, -, rfl⟩ | ⟨hs, hopen, -, -, rfl⟩ := createQuiz_eq_ok h
  · simp only [Stores.key?, Table.find?_insert_self]
  · have hstored := KeySpace.find?_stored s.keySpace id quiz.toValue.compact key.toValue.compact
      (.solution id)
    rw [if_pos rfl] at hstored
    simp only [Stores.key?, hs, readKeys, Pool.acquire, hopen]
    exact KeySpace.key?_ofText hstored

/-! ### Buckets -/

/-- Whether a text stands in the key space where a bucket would have to be. -/
def hasTextFor (s : Stores) (bucket : String) : Bool :=
  match s.quizzes, s.keySpace.find? (Key.bucket bucket) with
  | .redis, some (.bytes _) => true
  | _, _ => false

/-- A bucket that can be read is no text. -/
theorem hasTextFor_of_bucket {bucket : String} {ids : List String}
    (h : s.bucket bucket = .ok ids) : s.hasTextFor bucket = false := by
  have hreach := Reachable.of_bucket h
  cases hs : s.quizzes with
  | memory m => simp only [hasTextFor, hs]
  | redis =>
      simp only [Stores.bucket, hs, readKeys_of_isOpen (hreach hs), KeySpace.bucket,
        KeySpace.items] at h
      simp only [hasTextFor, hs]
      cases hfind : s.keySpace.find? (Key.bucket bucket) with
      | none => rfl
      | some entry =>
          cases entry with
          | list items => rfl
          | bytes data =>
              rw [hfind] at h
              cases h

/-- Storing a quiz puts no text where a bucket would have to be. -/
theorem hasTextFor_createQuiz {id : String} {quiz : Quiz} {key : Answers}
    (h : s.createQuiz id quiz key = .ok s') (bucket : String) :
    s'.hasTextFor bucket = s.hasTextFor bucket := by
  obtain ⟨m, hs, -, -, rfl⟩ | ⟨hs, -, -, -, rfl⟩ := createQuiz_eq_ok h
  · simp only [hasTextFor, hs]
  · have hstored := KeySpace.find?_stored s.keySpace id quiz.toValue.compact key.toValue.compact
      (.bucket bucket)
    rw [if_neg (by simp), if_neg (by simp)] at hstored
    simp only [Slot.name] at hstored
    simp only [hasTextFor, hs, hstored]

/-- Nothing can be appended to a text. -/
theorem appendBucket_of_text (h : s.Reachable) {bucket : String}
    (text : s.hasTextFor bucket = true) (id : String) :
    s.appendBucket bucket id = .error .wrongEntry := by
  cases hs : s.quizzes with
  | memory m =>
      simp only [hasTextFor, hs] at text
      cases text
  | redis =>
      simp only [hasTextFor, hs] at text
      simp only [Stores.appendBucket, hs, writeKeys_of_isOpen (h hs), KeySpace.appendBucket,
        KeySpace.items]
      split at text
      · next hfind =>
        rw [hfind]
        rfl
      · cases text

/-- **An id can be appended to whatever is no text**, and then quizzes are still in reach. -/
theorem exists_appendBucket (h : s.Reachable) {bucket : String}
    (list : s.hasTextFor bucket = false) (id : String) :
    ∃ s', s.appendBucket bucket id = .ok s' ∧ s'.Reachable := by
  cases hs : s.quizzes with
  | memory m =>
      simp only [Stores.appendBucket, hs]
      refine ⟨_, rfl, fun hs' => ?_⟩
      cases hs'
  | redis =>
      simp only [hasTextFor, hs] at list
      simp only [Stores.appendBucket, hs, writeKeys_of_isOpen (h hs), KeySpace.appendBucket,
        KeySpace.items]
      cases hfind : s.keySpace.find? (Key.bucket bucket) with
      | none => exact ⟨_, rfl, fun _ => h hs⟩
      | some entry =>
          cases entry with
          | list items => exact ⟨_, rfl, fun _ => h hs⟩
          | bytes data =>
              rw [hfind] at list
              cases list

/-- What is read from a bucket are its entries, unless a text stands in its place. -/
theorem bucket_eq_readTexts (h : s.Reachable) {bucket : String}
    (list : s.hasTextFor bucket = false) :
    s.bucket bucket = KeySpace.readTexts (s.entriesIn bucket) := by
  cases hs : s.quizzes with
  | memory m => simp only [Stores.bucket, entriesIn, hs, KeySpace.readTexts_toUTF8]
  | redis =>
      simp only [hasTextFor, hs] at list
      simp only [Stores.bucket, hs, readKeys_of_isOpen (h hs), KeySpace.bucket, KeySpace.items,
        entriesIn]
      cases hfind : s.keySpace.find? (Key.bucket bucket) with
      | none => rfl
      | some entry =>
          cases entry with
          | list items => rfl
          | bytes data =>
              rw [hfind] at list
              cases list

/-- Appending to a bucket puts no text where a bucket would have to be. -/
theorem hasTextFor_appendBucket {bucket id : String} (h : s.appendBucket bucket id = .ok s')
    (other : String) : s'.hasTextFor other = s.hasTextFor other := by
  cases hs : s.quizzes with
  | memory m =>
      simp only [Stores.appendBucket, hs] at h
      obtain rfl := Except.ok.inj h
      simp only [hasTextFor, hs]
  | redis =>
      simp only [Stores.appendBucket, hs] at h
      obtain ⟨-, ks, hks, rfl⟩ := writeKeys_eq_ok h
      rw [KeySpace.appendBucket, KeySpace.items] at hks
      have hother (items : List ByteArray) :=
        Slot.find?_insert s.keySpace (.bucket bucket) (.bucket other) (.list items)
      simp only [Slot.name, Slot.bucket.injEq] at hother
      split at hks
      · next hnone =>
        obtain rfl := Except.ok.inj hks
        simp only [hasTextFor, hs, hother]
        by_cases heq : other = bucket
        · rw [if_pos heq, heq, hnone]
        · rw [if_neg heq]
      · next items hlist =>
        obtain rfl := Except.ok.inj hks
        simp only [hasTextFor, hs, hother]
        by_cases heq : other = bucket
        · rw [if_pos heq, heq, hlist]
        · rw [if_neg heq]
      · cases hks

/-- Moving the counter puts no text where a bucket would have to be. -/
theorem hasTextFor_putCounter {n : Int} (h : s.putCounter n = .ok s') (bucket : String) :
    s'.hasTextFor bucket = s.hasTextFor bucket := by
  cases hs : s.quizzes with
  | memory m =>
      simp only [Stores.putCounter, hs, MemoryStore.putCounter] at h
      split at h
      · cases h
      · obtain rfl := Except.ok.inj h
        simp only [hasTextFor, hs]
  | redis =>
      simp only [Stores.putCounter, hs] at h
      obtain ⟨-, ks, hks, rfl⟩ := writeKeys_eq_ok h
      obtain rfl := Except.ok.inj hks
      have hcounted : (s.keySpace.putInteger Key.counter n).find? (Key.bucket bucket) =
          s.keySpace.find? (Key.bucket bucket) :=
        (Slot.find?_insert s.keySpace .counter (.bucket bucket) _).trans (if_neg (by simp))
      simp only [hasTextFor, hs, hcounted]

/-- **How buckets read after an id was appended** to one of them. -/
theorem bucket_appendBucket {bucket other id : String} {ids : List String}
    (h : s.appendBucket bucket id = .ok s') (hids : s.bucket other = .ok ids) :
    s'.bucket other = .ok (if other = bucket then ids ++ [id] else ids) := by
  have hreach := Reachable.of_bucket hids
  have hlist := hasTextFor_of_bucket hids
  have hreach' : s'.Reachable := by
    cases htext : s.hasTextFor bucket with
    | true => cases h.symm.trans (appendBucket_of_text hreach htext id)
    | false =>
        obtain ⟨s'', happend, hreach''⟩ := exists_appendBucket hreach htext id
        obtain rfl := Except.ok.inj (happend.symm.trans h)
        exact hreach''
  rw [bucket_eq_readTexts hreach hlist] at hids
  rw [bucket_eq_readTexts hreach' ((hasTextFor_appendBucket h other).trans hlist)]
  by_cases heq : other = bucket
  · subst heq
    rw [entriesIn_appendBucket h, if_pos rfl]
    exact KeySpace.readTexts_append hids id
  · have hframe : s.AgreeOn s' (.bucket other) := agreeOn_appendBucket h (by simpa using heq)
    rw [if_neg heq]
    exact (congrArg KeySpace.readTexts hframe).trans hids

/-- **A bucket that can be read can be emptied**, and its ids are given. -/
theorem exists_drainBucket {bucket : String} {ids : List String} (h : s.bucket bucket = .ok ids) :
    ∃ s', s.drainBucket bucket = .ok (.ok ids, s') := by
  have hreach := Reachable.of_bucket h
  cases hs : s.quizzes with
  | memory m =>
      simp only [Stores.bucket, hs, Except.ok.injEq] at h
      simp only [Stores.drainBucket, hs, h]
      exact ⟨_, rfl⟩
  | redis =>
      simp only [Stores.bucket, hs, readKeys_of_isOpen (hreach hs)] at h
      obtain ⟨items, hitems, hread⟩ := KeySpace.items_of_bucket h
      simp only [Stores.drainBucket, hs, readKeys_of_isOpen (hreach hs), hitems,
        writeKeys_of_isOpen (hreach hs), ← hread]
      exact ⟨_, rfl⟩

/-- **How buckets read after one of them was emptied.** -/
theorem bucket_drainBucket {bucket other : String} {ids? : Except Fault (List String)}
    {ids : List String} (h : s.drainBucket bucket = .ok (ids?, s'))
    (hids : s.bucket other = .ok ids) :
    s'.bucket other = .ok (if other = bucket then [] else ids) := by
  have hreach := Reachable.of_bucket hids
  cases hs : s.quizzes with
  | memory m =>
      simp only [Stores.drainBucket, hs] at h
      obtain ⟨-, rfl⟩ := Prod.mk.inj (Except.ok.inj h)
      simp only [Stores.bucket, hs, Except.ok.injEq] at hids
      simp only [Stores.bucket, MemoryStore.bucket, MemoryStore.removeBucket, Table.find?_erase]
      split
      · rfl
      · exact congrArg Except.ok hids
  | redis =>
      have hopen := hreach hs
      simp only [Stores.drainBucket, hs] at h
      cases hread : s.readKeys fun ks => ks.items (Key.bucket bucket) with
      | error e =>
          rw [hread] at h
          cases h
      | ok items =>
          rw [hread, writeKeys_of_isOpen hopen] at h
          obtain ⟨-, rfl⟩ := Prod.mk.inj (Except.ok.inj h)
          have hother := Slot.find?_erase s.keySpace (.bucket bucket) (.bucket other)
          simp only [Slot.name, Slot.bucket.injEq] at hother
          simp only [Stores.bucket, hs] at hids ⊢
          rw [readKeys_of_isOpen hopen] at hids
          refine (readKeys_of_isOpen (by exact hopen) _).trans ?_
          by_cases heq : other = bucket
          · rw [if_pos heq] at hother ⊢
            exact KeySpace.bucket_of_none hother
          · rw [if_neg heq] at hother ⊢
            rw [← hids]
            simp only [KeySpace.bucket, KeySpace.items, KeySpace.removeKey, hother]

end Stores

end QuizHall
