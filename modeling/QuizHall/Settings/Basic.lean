import QuizHall.Validation.Rule

/-!
# Settings

Where the stores live, how to reach their servers, and the numbers that the rules of the hall
depend on.

## Main definitions

* `StorageBackend`, `RatingBackend`: where quizzes and ratings are kept.
* `Settings`: all settings, with their defaults.
* `Settings.ofValue`, `Settings.toValue`: settings as a record.
* `Settings.effectiveRatingBackend`: where ratings are kept in the end.
-/

namespace QuizHall

open Json (Value)

/-- How many ticks a quiz lives by default. -/
def testDeletionDelay : Int := 10

/-- One day of ticks of six seconds. -/
def productionDeletionDelay : Int := 14400

/-! ### Backends -/

/-- Where quizzes, buckets and the counter are kept. -/
inductive StorageBackend where
  /-- In memory. -/
  | memory
  /-- In a Redis key space. -/
  | redis
  deriving DecidableEq, Inhabited

/-- Where ratings are kept. -/
inductive RatingBackend where
  /-- In memory. -/
  | memory
  /-- In a Redis key space. -/
  | redis
  /-- In a MySQL table. -/
  | mysql
  deriving DecidableEq, Inhabited

namespace StorageBackend

/-- The word that names the backend. -/
def word : StorageBackend → String
  | memory => "memory"
  | redis => "redis"

/-- All backends, in the order in which they are offered. -/
def all : List StorageBackend := [memory, redis]

/-- The rating backend of the same place. -/
def forRatings : StorageBackend → RatingBackend
  | memory => .memory
  | redis => .redis

/-- Reads the word of a backend. -/
def rule : Rule StorageBackend := Rule.oneOf (all.map fun b => (b.word, b))

end StorageBackend

namespace RatingBackend

/-- The word that names the backend. -/
def word : RatingBackend → String
  | memory => "memory"
  | redis => "redis"
  | mysql => "mysql"

/-- All backends, in the order in which they are offered. -/
def all : List RatingBackend := [memory, redis, mysql]

/-- Reads the word of a backend. -/
def rule : Rule RatingBackend := Rule.oneOf (all.map fun b => (b.word, b))

end RatingBackend

/-! ### The record -/

/-- All settings. -/
structure Settings where
  /-- Where quizzes, buckets and the counter are kept. -/
  storageBackend : StorageBackend := .memory
  /-- Where ratings are kept; with the quizzes, if nothing is said. -/
  ratingBackend : Option RatingBackend := none
  /-- The host of the Redis server. -/
  redisHost : String := "localhost"
  /-- The port of the Redis server. -/
  redisPort : Int := 6379
  /-- The number of the Redis key space. -/
  redisDb : Int := 0
  /-- The host of the MySQL server. -/
  dbHost : String := "localhost"
  /-- The port of the MySQL server. -/
  dbPort : Int := 3306
  /-- The user of the MySQL server. -/
  dbUser : String := "quiz"
  /-- The password of that user. -/
  dbPassword : String := ""
  /-- The name of the MySQL database. -/
  dbName : String := "quiz_engine"
  /-- How many ticks a quiz lives. -/
  deletionDelay : Int := testDeletionDelay
  /-- What a wrong answer costs. -/
  tokensPerQuestion : Int := 10
  /-- Whether the fifth answer of a key is checked too. -/
  validateAllAnswers : Bool := false
  /-- How long a tick takes. -/
  tickSeconds : Float := 6.0
  /-- The file that log lines are appended to. -/
  logFile : Option String := "quiz_engine.log"
  /-- A quiz lives at least one tick. -/
  one_le_deletionDelay : 1 ≤ deletionDelay := by decide
  /-- A wrong answer costs nothing or something. -/
  tokensPerQuestion_nonneg : 0 ≤ tokensPerQuestion := by decide
  deriving BEq

namespace Settings

instance : Inhabited Settings := ⟨{}⟩

/-- Where ratings are kept in the end. -/
def effectiveRatingBackend (s : Settings) : RatingBackend :=
  s.ratingBackend.getD s.storageBackend.forRatings

/-- The properties of settings that are worked out from their fields. -/
def properties : List String := ["effective_rating_backend"]

/-- Settings from the values of their fields. -/
def ofParts (storageBackend : StorageBackend) (ratingBackend : Option RatingBackend)
    (redisHost : String) (redisPort redisDb : Int) (dbHost : String) (dbPort : Int)
    (dbUser dbPassword dbName : String) (deletionDelay : { n : Int // 1 ≤ n })
    (tokensPerQuestion : { n : Int // 0 ≤ n }) (validateAllAnswers : Bool)
    (tickSeconds : Float) (logFile : Option String) : Settings where
  storageBackend := storageBackend
  ratingBackend := ratingBackend
  redisHost := redisHost
  redisPort := redisPort
  redisDb := redisDb
  dbHost := dbHost
  dbPort := dbPort
  dbUser := dbUser
  dbPassword := dbPassword
  dbName := dbName
  deletionDelay := deletionDelay.val
  tokensPerQuestion := tokensPerQuestion.val
  validateAllAnswers := validateAllAnswers
  tickSeconds := tickSeconds
  logFile := logFile
  one_le_deletionDelay := deletionDelay.property
  tokensPerQuestion_nonneg := tokensPerQuestion.property

/-- Settings from fields that differ from given ones where the form says so. -/
def ofForm (source : Source) (form : Form) (base : Settings) : Checked Settings :=
  ofParts <$> form.withDefault "storage_backend" StorageBackend.rule base.storageBackend
    <*> form.withDefault "rating_backend" (Rule.orNull RatingBackend.rule) base.ratingBackend
    <*> form.withDefault "redis_host" Rule.text base.redisHost
    <*> form.withDefault "redis_port" Rule.integer base.redisPort
    <*> form.withDefault "redis_db" Rule.integer base.redisDb
    <*> form.withDefault "db_host" Rule.text base.dbHost
    <*> form.withDefault "db_port" Rule.integer base.dbPort
    <*> form.withDefault "db_user" Rule.text base.dbUser
    <*> form.withDefault "db_password" Rule.text base.dbPassword
    <*> form.withDefault "db_name" Rule.text base.dbName
    <*> form.withDefault "deletion_delay" (Rule.atLeast 1)
      ⟨base.deletionDelay, base.one_le_deletionDelay⟩
    <*> form.withDefault "tokens_per_question" (Rule.atLeast 0)
      ⟨base.tokensPerQuestion, base.tokensPerQuestion_nonneg⟩
    <*> form.withDefault "validate_all_answers" Rule.flag base.validateAllAnswers
    <*> form.withDefault "tick_seconds" (Rule.positive source) base.tickSeconds
    <*> form.withDefault "log_file" (Rule.orNull Rule.text) base.logFile

/-- Reads settings; a field that is left out keeps its default. -/
def ofValue (source : Source) : Rule Settings := fun v =>
  (Form.ofValue source "Settings" v).andThen fun form => ofForm source form {}

/-- How the Redis server is reached. -/
def redisAddress (s : Settings) : Value :=
  .object [("host", .text s.redisHost), ("port", .int s.redisPort), ("db", .int s.redisDb)]

/-- How the MySQL server is reached. -/
def mysqlAddress (s : Settings) : Value :=
  .object [("host", .text s.dbHost), ("port", .int s.dbPort), ("user", .text s.dbUser),
    ("password", .text s.dbPassword), ("db", .text s.dbName)]

/-- Settings as a record. -/
def toValue (s : Settings) : Value :=
  .object [("storage_backend", .text s.storageBackend.word),
    ("rating_backend", Value.textOrNull (s.ratingBackend.map RatingBackend.word)),
    ("redis_host", .text s.redisHost), ("redis_port", .int s.redisPort),
    ("redis_db", .int s.redisDb), ("db_host", .text s.dbHost), ("db_port", .int s.dbPort),
    ("db_user", .text s.dbUser), ("db_password", .text s.dbPassword),
    ("db_name", .text s.dbName), ("deletion_delay", .int s.deletionDelay),
    ("tokens_per_question", .int s.tokensPerQuestion),
    ("validate_all_answers", .flag s.validateAllAnswers), ("tick_seconds", .float s.tickSeconds),
    ("log_file", Value.textOrNull s.logFile)]

end Settings

end QuizHall
