import QuizHall.Proofs.Store.Holds

/-!
# Stores That Differ in Nothing but Keys

Two stores are **twins** if they are the same in everything but the keys of quizzes, and have a key
under the same ids. In a key space this means that every name holds the same in both, or is the name
of a key and holds some key in both. Whatever cannot be read as a key has to be the same.

Nothing but the key of a quiz tells twins apart, so every other read gives the same in both. Every
change, made in both, fails with the same fault or leaves twins behind. A quiz may even be stored
with one key here and with another one there.

## Main definitions

* `Stores.Twins`: stores that differ in nothing but keys.
* `Corresponds`: outcomes that fail alike or are related.

## Main results

* `Twins.key?`: whether there is a key does not tell twins apart.
* `Twins.createQuiz`, `Twins.deleteQuiz`, `Twins.appendBucket`, `Twins.drainBucket`,
  `Twins.putCounter`, `Twins.saveRating`: changes of twins leave twins.
-/

namespace QuizHall

/-! ### Twins -/

/-- An entry **holds a key** if it is a byte string that a key can be read from. -/
def Entry.HoldsKey (e : Entry) : Prop :=
  ∃ data key, e = .bytes data ∧
    KeySpace.readRecord (Answers.ofValue .json) data = .ok (some key)

/-- Key spaces are **twins** if under every name they hold the same, unless it is the name of a key
and both hold some key there. -/
def KeySpace.Twins (ks₁ ks₂ : KeySpace) : Prop :=
  ∀ name, ks₁.find? name = ks₂.find? name ∨
    ∃ id e₁ e₂, name = Key.solution id ∧ ks₁.find? name = some e₁ ∧ ks₂.find? name = some e₂ ∧
      e₁.HoldsKey ∧ e₂.HoldsKey

/-- Stores in memory are **twins** if they differ in nothing but the keys that they have under the
same ids. -/
structure MemoryStore.Twins (m₁ m₂ : MemoryStore) : Prop where
  /-- The same quizzes are stored. -/
  quizzes : m₁.quizzes = m₂.quizzes
  /-- Keys are stored under the same ids. -/
  keys : ∀ id, (m₁.keys.find? id).isSome = (m₂.keys.find? id).isSome
  /-- The same ids are in the buckets. -/
  buckets : m₁.buckets = m₂.buckets
  /-- The counter is the same. -/
  counter : m₁.counter = m₂.counter

/-- Twins keep their quizzes in the same place. -/
inductive QuizStore.Twins : QuizStore → QuizStore → Prop
  /-- In memory. -/
  | memory {m₁ m₂ : MemoryStore} (h : m₁.Twins m₂) : Twins (.memory m₁) (.memory m₂)
  /-- In the key space. -/
  | redis : Twins .redis .redis

/-- Stores are **twins** if they differ in nothing but the keys that they have under the same
ids. -/
structure Stores.Twins (s₁ s₂ : Stores) : Prop where
  /-- Quizzes are in the same place and differ in nothing but keys. -/
  quizzes : s₁.quizzes.Twins s₂.quizzes
  /-- Ratings are the same. -/
  ratings : s₁.ratings = s₂.ratings
  /-- The key spaces differ in nothing but keys. -/
  keySpace : s₁.keySpace.Twins s₂.keySpace
  /-- The pools of connections to the key space are the same. -/
  redisPool : s₁.redisPool = s₂.redisPool
  /-- The pools of connections to the relational table are the same. -/
  mysqlPool : s₁.mysqlPool = s₂.mysqlPool

/-- Two outcomes **correspond** if both are the same fault, or both are answers that are related. -/
inductive Corresponds {α β : Type} (r : α → β → Prop) : Except Fault α → Except Fault β → Prop
  /-- Both are answers. -/
  | ok {a : α} {b : β} (h : r a b) : Corresponds r (.ok a) (.ok b)
  /-- Both are the same fault. -/
  | error (e : Fault) : Corresponds r (.error e) (.error e)

/-- Outcomes that are the same correspond if every answer is related to itself. -/
theorem Corresponds.of_eq {α : Type} {r : α → α → Prop} {x₁ x₂ : Except Fault α} (h : x₁ = x₂)
    (hr : ∀ a, r a a) : Corresponds r x₁ x₂ := by
  subst h
  cases x₁ with
  | ok a => exact .ok (hr a)
  | error e => exact .error e

/-- Outcomes that correspond still do so after their answers were worked on. -/
theorem Corresponds.map {α₁ α₂ β₁ β₂ : Type} {r : α₁ → α₂ → Prop} {r' : β₁ → β₂ → Prop}
    {x₁ : Except Fault α₁} {x₂ : Except Fault α₂} {f₁ : α₁ → β₁} {f₂ : α₂ → β₂}
    (h : Corresponds r x₁ x₂) (hr : ∀ a₁ a₂, r a₁ a₂ → r' (f₁ a₁) (f₂ a₂)) :
    Corresponds r' (x₁.map f₁) (x₂.map f₂) := by
  cases h with
  | ok h => exact .ok (hr _ _ h)
  | error e => exact .error e

/-! ### Key spaces -/

namespace KeySpace.Twins

variable {ks₁ ks₂ : KeySpace}

/-- Every slot but that of a key holds the same in both. -/
theorem find?_eq (h : ks₁.Twins ks₂) (slot : Slot) (hslot : ∀ id, slot ≠ .solution id) :
    ks₁.find? slot.name = ks₂.find? slot.name := by
  rcases h slot.name with hsame | ⟨id, e₁, e₂, hname, -⟩
  · exact hsame
  · exact absurd (Slot.name_inj (t := .solution id).mp hname) (hslot id)

/-- The same quizzes are read. -/
theorem quiz?_eq (h : ks₁.Twins ks₂) (id : String) : ks₁.quiz? id = ks₂.quiz? id := by
  have hfind : ks₁.find? (Key.quiz id) = ks₂.find? (Key.quiz id) := h.find?_eq (.quiz id) (by simp)
  rw [KeySpace.quiz?, KeySpace.quiz?, record?, record?, bytes?, bytes?, hfind]

/-- The same lists are found in buckets. -/
theorem items_eq (h : ks₁.Twins ks₂) (bucket : String) :
    ks₁.items (Key.bucket bucket) = ks₂.items (Key.bucket bucket) := by
  have hfind : ks₁.find? (Key.bucket bucket) = ks₂.find? (Key.bucket bucket) :=
    h.find?_eq (.bucket bucket) (by simp)
  rw [items, items, hfind]

/-- The same counter is read. -/
theorem counter_eq (h : ks₁.Twins ks₂) : ks₁.integer Key.counter = ks₂.integer Key.counter := by
  have hfind : ks₁.find? Key.counter = ks₂.find? Key.counter := h.find?_eq .counter (by simp)
  rw [integer, integer, bytes?, bytes?, hfind]

/-- The same ratings are read. -/
theorem rating_eq (h : ks₁.Twins ks₂) (account : String) :
    ks₁.integer (Key.rating account) = ks₂.integer (Key.rating account) := by
  have hfind : ks₁.find? (Key.rating account) = ks₂.find? (Key.rating account) :=
    h.find?_eq (.rating account) (by simp)
  rw [integer, integer, bytes?, bytes?, hfind]

/-- The same names are in use. -/
theorem contains_eq (h : ks₁.Twins ks₂) (name : String) :
    ks₁.contains name = ks₂.contains name := by
  rw [Table.contains, Table.contains]
  rcases h name with hsame | ⟨id, e₁, e₂, -, h₁, h₂, -⟩
  · rw [hsame]
  · rw [h₁, h₂]
    rfl

/-- Both have a key under an id, or the same fault or nothing. -/
theorem key? (h : ks₁.Twins ks₂) (id : String) :
    Corresponds (fun key₁ key₂ => key₁.isSome = key₂.isSome) (ks₁.key? id) (ks₂.key? id) := by
  rcases h (Key.solution id) with hsame | ⟨-, e₁, e₂, -, h₁, h₂, hkey₁, hkey₂⟩
  · have heq : ks₁.key? id = ks₂.key? id := by
      simp only [KeySpace.key?, record?, bytes?, hsame]
    exact .of_eq heq fun _ => rfl
  · obtain ⟨data₁, key₁, rfl, hread₁⟩ := hkey₁
    obtain ⟨data₂, key₂, rfl, hread₂⟩ := hkey₂
    have heq₁ : ks₁.key? id = .ok (some key₁) := by
      rw [KeySpace.key?, record?, bytes?, h₁]
      exact hread₁
    have heq₂ : ks₂.key? id = .ok (some key₂) := by
      rw [KeySpace.key?, record?, bytes?, h₂]
      exact hread₂
    rw [heq₁, heq₂]
    exact .ok rfl

/-- The same can be stored in both. -/
theorem insert (h : ks₁.Twins ks₂) (name : String) (e : Entry) :
    Twins (ks₁.insert name e) (ks₂.insert name e) := by
  intro name'
  rw [Table.find?_insert, Table.find?_insert]
  split
  · exact .inl rfl
  · exact h name'

/-- The same can be removed from both. -/
theorem erase (h : ks₁.Twins ks₂) (name : String) :
    Twins (ks₁.erase name) (ks₂.erase name) := by
  intro name'
  rw [Table.find?_erase, Table.find?_erase]
  split
  · exact .inl rfl
  · exact h name'

/-- Different keys can be stored in both under the same id. -/
theorem insertKey (h : ks₁.Twins ks₂) (id : String) (key₁ key₂ : Answers) :
    Twins (ks₁.putText (Key.solution id) key₁.toValue.compact)
      (ks₂.putText (Key.solution id) key₂.toValue.compact) := by
  intro name
  rw [putText, putText, Table.find?_insert, Table.find?_insert]
  split
  · next hname =>
    exact .inr ⟨id, _, _, hname, rfl, rfl, ⟨_, key₁, rfl, readRecord_key key₁⟩,
      ⟨_, key₂, rfl, readRecord_key key₂⟩⟩
  · exact h name

/-- A quiz can be stored in both, even with different keys. -/
theorem createQuiz (h : ks₁.Twins ks₂) (id : String) (quiz : Quiz) (key₁ key₂ : Answers) :
    Corresponds KeySpace.Twins (ks₁.createQuiz id quiz key₁) (ks₂.createQuiz id quiz key₂) := by
  rw [KeySpace.createQuiz, KeySpace.createQuiz, h.contains_eq, h.contains_eq]
  split
  · exact .error _
  · exact .ok ((h.insert (Key.quiz id) _).insertKey id key₁ key₂)

/-- An id can be appended to a bucket of both. -/
theorem appendBucket (h : ks₁.Twins ks₂) (bucket id : String) :
    Corresponds KeySpace.Twins (ks₁.appendBucket bucket id) (ks₂.appendBucket bucket id) := by
  rw [KeySpace.appendBucket, KeySpace.appendBucket, h.items_eq]
  cases ks₂.items (Key.bucket bucket) with
  | error e => exact .error e
  | ok items => exact .ok (h.insert _ _)

end KeySpace.Twins

/-! ### Stores in memory -/

namespace MemoryStore.Twins

variable {m₁ m₂ : MemoryStore}

/-- A quiz can be stored in both, even with different keys. -/
theorem createQuiz (h : m₁.Twins m₂) (id : String) (quiz : Quiz) (key₁ key₂ : Answers) :
    Corresponds MemoryStore.Twins (m₁.createQuiz id quiz key₁) (m₂.createQuiz id quiz key₂) := by
  have hkeys : m₁.keys.contains id = m₂.keys.contains id := h.keys id
  rw [MemoryStore.createQuiz, MemoryStore.createQuiz, h.quizzes, hkeys]
  split
  · exact .error _
  · refine .ok ⟨rfl, fun id' => ?_, h.buckets, h.counter⟩
    rw [Table.find?_insert, Table.find?_insert]
    split
    · rfl
    · exact h.keys id'

/-- A quiz can be removed from both. -/
theorem deleteQuiz (h : m₁.Twins m₂) (id : String) :
    (m₁.deleteQuiz id).Twins (m₂.deleteQuiz id) := by
  refine ⟨congrArg (·.erase id) h.quizzes, fun id' => ?_, h.buckets, h.counter⟩
  simp only [MemoryStore.deleteQuiz, Table.find?_erase]
  split
  · rfl
  · exact h.keys id'

/-- The same ids are read from a bucket. -/
theorem bucket_eq (h : m₁.Twins m₂) (bucket : String) : m₁.bucket bucket = m₂.bucket bucket := by
  rw [MemoryStore.bucket, MemoryStore.bucket, h.buckets]

/-- The same can be put in the place of all buckets. -/
theorem withBuckets (h : m₁.Twins m₂) {buckets₁ buckets₂ : Table String (List String)}
    (hbuckets : buckets₁ = buckets₂) :
    Twins { m₁ with buckets := buckets₁ } { m₂ with buckets := buckets₂ } :=
  ⟨h.quizzes, h.keys, hbuckets, h.counter⟩

/-- The counter of both can be moved. -/
theorem putCounter (h : m₁.Twins m₂) (n : Int) :
    Corresponds MemoryStore.Twins (m₁.putCounter n) (m₂.putCounter n) := by
  rw [MemoryStore.putCounter, MemoryStore.putCounter, h.counter]
  split
  · exact .error _
  · exact .ok ⟨h.quizzes, h.keys, h.buckets, rfl⟩

end MemoryStore.Twins

/-! ### Stores -/

namespace Stores.Twins

variable {s₁ s₂ : Stores}

theorem refl (s : Stores) : s.Twins s := by
  refine ⟨?_, rfl, fun _ => .inl rfl, rfl, rfl⟩
  cases s.quizzes with
  | memory m => exact .memory ⟨rfl, fun _ => rfl, rfl, rfl⟩
  | redis => exact .redis

/-- Twins have their quizzes both in memory, or both in the key space. -/
theorem place (h : s₁.Twins s₂) :
    (∃ m₁ m₂, s₁.quizzes = .memory m₁ ∧ s₂.quizzes = .memory m₂ ∧ m₁.Twins m₂) ∨
      (s₁.quizzes = .redis ∧ s₂.quizzes = .redis) := by
  have hquizzes := h.quizzes
  generalize s₁.quizzes = q₁ at hquizzes ⊢
  generalize s₂.quizzes = q₂ at hquizzes ⊢
  cases hquizzes with
  | memory hm => exact .inl ⟨_, _, rfl, rfl, hm⟩
  | redis => exact .inr ⟨rfl, rfl⟩

/-- Twins with quizzes in memory stay twins if the quizzes do. -/
theorem inMemory (h : s₁.Twins s₂) {m₁ m₂ : MemoryStore} (hm : m₁.Twins m₂) :
    Twins { s₁ with quizzes := .memory m₁ } { s₂ with quizzes := .memory m₂ } :=
  ⟨.memory hm, h.ratings, h.keySpace, h.redisPool, h.mysqlPool⟩

/-- What comes of a read of the key space comes of it in both. -/
theorem readKeys {α β : Type} {r : α → β → Prop} (h : s₁.Twins s₂)
    {f₁ : KeySpace → Except Fault α} {f₂ : KeySpace → Except Fault β}
    (hf : Corresponds r (f₁ s₁.keySpace) (f₂ s₂.keySpace)) :
    Corresponds r (s₁.readKeys f₁) (s₂.readKeys f₂) := by
  rw [Stores.readKeys, Stores.readKeys, h.redisPool]
  cases s₂.redisPool.acquire .redis with
  | error e => exact .error e
  | ok _ => exact hf

/-- The same is read from both key spaces behind their pools. -/
theorem readKeys_eq {α : Type} (h : s₁.Twins s₂) {f : KeySpace → Except Fault α}
    (hf : f s₁.keySpace = f s₂.keySpace) : s₁.readKeys f = s₂.readKeys f := by
  rw [Stores.readKeys, Stores.readKeys, h.redisPool, hf]

/-- A change of both key spaces leaves twins if the key spaces stay twins. -/
theorem writeKeys (h : s₁.Twins s₂) {f₁ f₂ : KeySpace → Except Fault KeySpace}
    (hf : Corresponds KeySpace.Twins (f₁ s₁.keySpace) (f₂ s₂.keySpace)) :
    Corresponds Stores.Twins (s₁.writeKeys f₁) (s₂.writeKeys f₂) := by
  rw [Stores.writeKeys, Stores.writeKeys, h.redisPool]
  cases s₂.redisPool.acquire .redis with
  | error e => exact .error e
  | ok _ =>
      exact hf.map fun ks₁ ks₂ hks => ⟨h.quizzes, h.ratings, hks, rfl, h.mysqlPool⟩

/-! ### Reading -/

/-- The same quizzes are read. -/
theorem quiz?_eq (h : s₁.Twins s₂) (id : String) : s₁.quiz? id = s₂.quiz? id := by
  obtain ⟨m₁, m₂, hs₁, hs₂, hm⟩ | ⟨hs₁, hs₂⟩ := h.place
  · simp only [Stores.quiz?, hs₁, hs₂, hm.quizzes]
  · simp only [Stores.quiz?, hs₁, hs₂]
    exact h.readKeys_eq (h.keySpace.quiz?_eq id)

/-- **Whether there is a key** does not tell twins apart. -/
theorem key? (h : s₁.Twins s₂) (id : String) :
    Corresponds (fun key₁ key₂ => key₁.isSome = key₂.isSome) (s₁.key? id) (s₂.key? id) := by
  obtain ⟨m₁, m₂, hs₁, hs₂, hm⟩ | ⟨hs₁, hs₂⟩ := h.place
  · simp only [Stores.key?, hs₁, hs₂]
    exact .ok (hm.keys id)
  · simp only [Stores.key?, hs₁, hs₂]
    exact h.readKeys (h.keySpace.key? id)

/-- Both have a key under an id, or neither has, or the same fault keeps both from telling. -/
theorem key?_cases (h : s₁.Twins s₂) (id : String) :
    (∃ e, s₁.key? id = .error e ∧ s₂.key? id = .error e) ∨
      (s₁.key? id = .ok none ∧ s₂.key? id = .ok none) ∨
      ∃ key₁ key₂, s₁.key? id = .ok (some key₁) ∧ s₂.key? id = .ok (some key₂) := by
  have hkeys := h.key? id
  generalize s₁.key? id = x₁ at hkeys ⊢
  generalize s₂.key? id = x₂ at hkeys ⊢
  cases hkeys with
  | error e => exact .inl ⟨e, rfl, rfl⟩
  | @ok key?₁ key?₂ hsome =>
      cases key?₂ with
      | none =>
          rw [Option.isSome_none, Option.isSome_eq_false_iff, Option.isNone_iff_eq_none] at hsome
          exact .inr (.inl ⟨congrArg Except.ok hsome, rfl⟩)
      | some key₂ =>
          obtain ⟨key₁, rfl⟩ := Option.isSome_iff_exists.mp hsome
          exact .inr (.inr ⟨key₁, key₂, rfl, rfl⟩)

/-- The same ids are read from a bucket. -/
theorem bucket_eq (h : s₁.Twins s₂) (bucket : String) : s₁.bucket bucket = s₂.bucket bucket := by
  obtain ⟨m₁, m₂, hs₁, hs₂, hm⟩ | ⟨hs₁, hs₂⟩ := h.place
  · simp only [Stores.bucket, hs₁, hs₂, hm.bucket_eq]
  · simp only [Stores.bucket, hs₁, hs₂]
    refine h.readKeys_eq ?_
    rw [KeySpace.bucket, KeySpace.bucket, h.keySpace.items_eq]

/-- The same counter is read. -/
theorem counter_eq (h : s₁.Twins s₂) : s₁.counter = s₂.counter := by
  obtain ⟨m₁, m₂, hs₁, hs₂, hm⟩ | ⟨hs₁, hs₂⟩ := h.place
  · simp only [Stores.counter, hs₁, hs₂, hm.counter]
  · simp only [Stores.counter, hs₁, hs₂]
    exact h.readKeys_eq h.keySpace.counter_eq

/-- The same ratings are read. -/
theorem rating_eq (h : s₁.Twins s₂) (account : String) : s₁.rating account = s₂.rating account := by
  have hkeys : (s₁.readKeys fun ks => ks.integer (Key.rating account)) =
      s₂.readKeys fun ks => ks.integer (Key.rating account) :=
    h.readKeys_eq (h.keySpace.rating_eq account)
  simp only [Stores.rating, h.ratings, h.mysqlPool, hkeys]

/-! ### Writing -/

/-- **A quiz can be stored** in both, even with different keys. -/
theorem createQuiz (h : s₁.Twins s₂) (id : String) (quiz : Quiz) (key₁ key₂ : Answers) :
    Corresponds Stores.Twins (s₁.createQuiz id quiz key₁) (s₂.createQuiz id quiz key₂) := by
  obtain ⟨m₁, m₂, hs₁, hs₂, hm⟩ | ⟨hs₁, hs₂⟩ := h.place
  · simp only [Stores.createQuiz, hs₁, hs₂]
    exact (hm.createQuiz id quiz key₁ key₂).map fun _ _ => h.inMemory
  · simp only [Stores.createQuiz, hs₁, hs₂]
    exact h.writeKeys (h.keySpace.createQuiz id quiz key₁ key₂)

/-- A quiz can be removed from both. -/
theorem deleteQuiz (h : s₁.Twins s₂) (id : String) :
    Corresponds Stores.Twins (s₁.deleteQuiz id) (s₂.deleteQuiz id) := by
  obtain ⟨m₁, m₂, hs₁, hs₂, hm⟩ | ⟨hs₁, hs₂⟩ := h.place
  · simp only [Stores.deleteQuiz, hs₁, hs₂]
    exact .ok (h.inMemory (hm.deleteQuiz id))
  · simp only [Stores.deleteQuiz, hs₁, hs₂]
    exact h.writeKeys (.ok ((h.keySpace.erase (Key.quiz id)).erase (Key.solution id)))

/-- An id can be appended to a bucket of both. -/
theorem appendBucket (h : s₁.Twins s₂) (bucket id : String) :
    Corresponds Stores.Twins (s₁.appendBucket bucket id) (s₂.appendBucket bucket id) := by
  obtain ⟨m₁, m₂, hs₁, hs₂, hm⟩ | ⟨hs₁, hs₂⟩ := h.place
  · simp only [Stores.appendBucket, hs₁, hs₂]
    refine .ok (h.inMemory (hm.withBuckets ?_))
    rw [hm.buckets, hm.bucket_eq]
  · simp only [Stores.appendBucket, hs₁, hs₂]
    exact h.writeKeys (h.keySpace.appendBucket bucket id)

/-- A bucket of both can be emptied, with the same ids or the same fault to show for it. -/
theorem drainBucket (h : s₁.Twins s₂) (bucket : String) :
    Corresponds (fun drained₁ drained₂ => drained₁.1 = drained₂.1 ∧ drained₁.2.Twins drained₂.2)
      (s₁.drainBucket bucket) (s₂.drainBucket bucket) := by
  obtain ⟨m₁, m₂, hs₁, hs₂, hm⟩ | ⟨hs₁, hs₂⟩ := h.place
  · simp only [Stores.drainBucket, hs₁, hs₂]
    refine .ok ⟨?_, h.inMemory (hm.withBuckets ?_)⟩
    · rw [hm.bucket_eq]
    · rw [hm.buckets]
  · have hitems : (s₁.readKeys fun ks => ks.items (Key.bucket bucket)) =
        s₂.readKeys fun ks => ks.items (Key.bucket bucket) :=
      h.readKeys_eq (h.keySpace.items_eq bucket)
    simp only [Stores.drainBucket, hs₁, hs₂, hitems]
    cases s₂.readKeys fun ks => ks.items (Key.bucket bucket) with
    | error e => exact .error e
    | ok items =>
        have hwrite : Corresponds Stores.Twins
            (s₁.writeKeys fun ks => .ok (ks.removeKey (Key.bucket bucket)))
            (s₂.writeKeys fun ks => .ok (ks.removeKey (Key.bucket bucket))) :=
          h.writeKeys (.ok (h.keySpace.erase (Key.bucket bucket)))
        exact hwrite.map fun _ _ hs => ⟨rfl, hs⟩

/-- The counter of both can be moved. -/
theorem putCounter (h : s₁.Twins s₂) (n : Int) :
    Corresponds Stores.Twins (s₁.putCounter n) (s₂.putCounter n) := by
  obtain ⟨m₁, m₂, hs₁, hs₂, hm⟩ | ⟨hs₁, hs₂⟩ := h.place
  · simp only [Stores.putCounter, hs₁, hs₂]
    exact (hm.putCounter n).map fun _ _ => h.inMemory
  · simp only [Stores.putCounter, hs₁, hs₂]
    exact h.writeKeys (.ok (h.keySpace.insert Key.counter _))

/-- The rating of an account can be stored in both. -/
theorem saveRating (h : s₁.Twins s₂) (account : String) (rating : Int) :
    Corresponds Stores.Twins (s₁.saveRating account rating) (s₂.saveRating account rating) := by
  have hwith (ratings : RatingStore) :
      Twins { s₁ with ratings := ratings } { s₂ with ratings := ratings } :=
    ⟨h.quizzes, rfl, h.keySpace, h.redisPool, h.mysqlPool⟩
  have hacquire : s₁.mysqlPool.acquire .mysql = s₂.mysqlPool.acquire .mysql := by
    rw [h.mysqlPool]
  simp only [Stores.saveRating, h.ratings, hacquire]
  cases s₂.ratings with
  | memory ratings => exact .ok (hwith _)
  | redis => exact h.writeKeys (.ok (h.keySpace.insert (Key.rating account) _))
  | mysql table =>
      cases s₂.mysqlPool.acquire .mysql with
      | error e => exact .error e
      | ok _ => exact .ok (hwith _)

end Stores.Twins

end QuizHall
