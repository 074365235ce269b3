import QuizHall.Settings.Basic
import QuizHall.Store.KeySpace
import QuizHall.Store.Memory
import QuizHall.Store.Pool
import QuizHall.Store.RatingTable

/-!
# The stores of a hall

Quizzes, buckets and the counter live in one place, ratings in the same or in another one. What
lives in a key space lives in the same key space, so there is one of it, behind one pool. Every
operation either succeeds or leaves the stores as they were; what comes of a removed bucket is read
after it was removed.

## Main definitions

* `Stores`: where each part lives, and what is in it.
* `Settings.needs`, `Settings.address`: which servers settings need, and how they are reached.
* `Stores.ofSettings`, `Stores.close`: the stores that settings ask for, at the beginning and in
  the end.
* `Stores.quiz?`, `Stores.key?`, `Stores.bucket`, `Stores.counter`, `Stores.rating`: reading.
* `Stores.createQuiz`, `Stores.deleteQuiz`, `Stores.appendBucket`, `Stores.drainBucket`,
  `Stores.putCounter`, `Stores.saveRating`: writing.
-/

namespace QuizHall

/-- Where quizzes, buckets and the counter live. -/
inductive QuizStore where
  /-- In memory. -/
  | memory (store : MemoryStore)
  /-- In the key space. -/
  | redis

/-- Where ratings live. -/
inductive RatingStore where
  /-- In memory. -/
  | memory (ratings : Table String Int)
  /-- In the key space. -/
  | redis
  /-- In a relational table. -/
  | mysql (table : RatingTable)

/-- The empty place for quizzes on a backend. -/
def QuizStore.empty : StorageBackend → QuizStore
  | .memory => .memory {}
  | .redis => .redis

/-- The empty place for ratings on a backend. -/
def RatingStore.empty : RatingBackend → RatingStore
  | .memory => .memory Table.empty
  | .redis => .redis
  | .mysql => .mysql {}

/-- The same place, with other rows in it if it is a relational table. -/
def RatingStore.withRows (rows : Table String Int) : RatingStore → RatingStore
  | .mysql table => .mysql { table with rows }
  | store => store

/-- The backend that quizzes live on. -/
def QuizStore.backend : QuizStore → StorageBackend
  | memory _ => .memory
  | redis => .redis

/-- The backend that ratings live on. -/
def RatingStore.backend : RatingStore → RatingBackend
  | memory _ => .memory
  | redis => .redis
  | mysql _ => .mysql

/-- Everything that a hall stores. -/
structure Stores where
  /-- Quizzes, buckets and the counter. -/
  quizzes : QuizStore
  /-- Ratings. -/
  ratings : RatingStore
  /-- The key space, empty as long as nothing lives in it. -/
  keySpace : KeySpace
  /-- The pool of connections to the key space. -/
  redisPool : Pool
  /-- The pool of connections to the relational table. -/
  mysqlPool : Pool

namespace Stores

/-! ### Opening and closing -/

/-- Whether some part of the stores lives in the key space. -/
def usesRedis (storage : StorageBackend) (ratings : RatingBackend) : Bool :=
  storage = .redis || ratings = .redis

/-- Empty stores in the places that settings name, with the pools that they need. -/
def ofSettings (settings : Settings) : Stores where
  quizzes := .empty settings.storageBackend
  ratings := .empty settings.effectiveRatingBackend
  keySpace := Table.empty
  redisPool :=
    if usesRedis settings.storageBackend settings.effectiveRatingBackend then Pool.fresh.create
    else Pool.fresh
  mysqlPool :=
    if settings.effectiveRatingBackend = .mysql then Pool.fresh.create else Pool.fresh

/-- The pool of connections to a server. -/
def pool (s : Stores) : Server → Pool
  | .redis => s.redisPool
  | .mysql => s.mysqlPool

/-- The stores with another pool of connections to a server. -/
def withPool (s : Stores) : Server → Pool → Stores
  | .redis, pool => { s with redisPool := pool }
  | .mysql, pool => { s with mysqlPool := pool }

/-- The stores before any connection was made. -/
def unconnected (s : Stores) : Stores := { s with redisPool := .fresh, mysqlPool := .fresh }

/-- Closes the pools. -/
def close (s : Stores) : Stores :=
  { s with redisPool := s.redisPool.close, mysqlPool := s.mysqlPool.close }

/-- Whether each handle ever made was closed, those of the key space first. -/
def closedHandles (s : Stores) : List Bool := s.redisPool.closed ++ s.mysqlPool.closed

/-! ### The key space behind its pool -/

/-- What is read from the key space, once a connection is there. -/
def readKeys {α : Type} (s : Stores) (f : KeySpace → Except Fault α) : Except Fault α := do
  s.redisPool.acquire .redis
  f s.keySpace

/-- The stores after a change of the key space. -/
def writeKeys (s : Stores) (f : KeySpace → Except Fault KeySpace) : Except Fault Stores := do
  s.redisPool.acquire .redis
  return { s with keySpace := ← f s.keySpace }

/-! ### Quizzes -/

/-- The quiz of an id. -/
def quiz? (s : Stores) (id : String) : Except Fault (Option Quiz) :=
  match s.quizzes with
  | .memory m => .ok (m.quizzes.find? id)
  | .redis => s.readKeys fun ks => ks.quiz? id

/-- The key of the quiz of an id. -/
def key? (s : Stores) (id : String) : Except Fault (Option Answers) :=
  match s.quizzes with
  | .memory m => .ok (m.keys.find? id)
  | .redis => s.readKeys fun ks => ks.key? id

/-- Stores a quiz and its key under a free id. -/
def createQuiz (s : Stores) (id : String) (quiz : Quiz) (key : Answers) : Except Fault Stores :=
  match s.quizzes with
  | .memory m => (m.createQuiz id quiz key).map fun m' => { s with quizzes := .memory m' }
  | .redis => s.writeKeys fun ks => ks.createQuiz id quiz key

/-- Removes a quiz and its key, as far as they are there. -/
def deleteQuiz (s : Stores) (id : String) : Except Fault Stores :=
  match s.quizzes with
  | .memory m => .ok { s with quizzes := .memory (m.deleteQuiz id) }
  | .redis => s.writeKeys fun ks => .ok (ks.deleteQuiz id)

/-! ### Buckets -/

/-- The ids in a bucket. -/
def bucket (s : Stores) (bucket : String) : Except Fault (List String) :=
  match s.quizzes with
  | .memory m => .ok (m.bucket bucket)
  | .redis => s.readKeys fun ks => ks.bucket bucket

/-- Appends an id to a bucket. -/
def appendBucket (s : Stores) (bucket id : String) : Except Fault Stores :=
  match s.quizzes with
  | .memory m => .ok { s with quizzes := .memory (m.appendBucket bucket id) }
  | .redis => s.writeKeys fun ks => ks.appendBucket bucket id

/-- Removes a bucket, and gives the ids that were in it. They are read after the bucket is gone, so
a bucket that holds something else than texts is lost. -/
def drainBucket (s : Stores) (bucket : String) :
    Except Fault (Except Fault (List String) × Stores) :=
  match s.quizzes with
  | .memory m => .ok (.ok (m.bucket bucket), { s with quizzes := .memory (m.removeBucket bucket) })
  | .redis => do
    let items ← s.readKeys fun ks => ks.items (Key.bucket bucket)
    let s' ← s.writeKeys fun ks => .ok (ks.removeKey (Key.bucket bucket))
    return (KeySpace.readTexts items, s')

/-! ### The counter -/

/-- The number of the latest quiz. -/
def counter (s : Stores) : Except Fault Int :=
  match s.quizzes with
  | .memory m => .ok m.counter
  | .redis => s.readKeys fun ks => ks.integer Key.counter

/-- Moves the counter. In memory it has to grow. -/
def putCounter (s : Stores) (n : Int) : Except Fault Stores :=
  match s.quizzes with
  | .memory m => (m.putCounter n).map fun m' => { s with quizzes := .memory m' }
  | .redis => s.writeKeys fun ks => .ok (ks.putInteger Key.counter n)

/-! ### Ratings -/

/-- The rating of an account; zero if none was ever stored. -/
def rating (s : Stores) (account : String) : Except Fault Int :=
  match s.ratings with
  | .memory ratings => .ok ((ratings.find? account).getD 0)
  | .redis => s.readKeys fun ks => ks.integer (Key.rating account)
  | .mysql table => do
    s.mysqlPool.acquire .mysql
    return table.rating account

/-- Stores the rating of an account. -/
def saveRating (s : Stores) (account : String) (rating : Int) : Except Fault Stores :=
  match s.ratings with
  | .memory ratings => .ok { s with ratings := .memory (ratings.insert account rating) }
  | .redis => s.writeKeys fun ks => .ok (ks.putInteger (Key.rating account) rating)
  | .mysql table => do
    s.mysqlPool.acquire .mysql
    return { s with ratings := .mysql (table.save account rating) }

/-! ### Changes from outside -/

/-- Puts a text under a name of the key space, as another user of the server might. -/
def putText (s : Stores) (name text : String) : Stores :=
  { s with keySpace := s.keySpace.putText name text }

/-- Sets the counter in memory to any number. -/
def forceCounter (s : Stores) (n : Int) : Stores :=
  match s.quizzes with
  | .memory m => { s with quizzes := .memory { m with counter := n } }
  | .redis => s

/-- Loses the key of a quiz, but not the quiz. -/
def loseKey (s : Stores) (id : String) : Stores :=
  match s.quizzes with
  | .memory m => { s with quizzes := .memory { m with keys := m.keys.erase id } }
  | .redis => { s with keySpace := s.keySpace.removeKey (Key.solution id) }

end Stores

namespace Settings

/-- Whether settings have something kept on a server. -/
def needs (s : Settings) : Server → Bool
  | .redis => Stores.usesRedis s.storageBackend s.effectiveRatingBackend
  | .mysql => s.effectiveRatingBackend = .mysql

/-- How a server is reached. -/
def address (s : Settings) : Server → Json.Value
  | .redis => s.redisAddress
  | .mysql => s.mysqlAddress

end Settings

end QuizHall
