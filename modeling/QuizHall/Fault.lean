import QuizHall.Text.ByteLiteral
import QuizHall.Validation.Issue

/-!
# Faults

Every way in which an operation of the hall, of its stores or of its ledger can fail. A fault
names its cause; its kind says how callers tell it from other faults, and its wording is given
in one place.

A fault is what an operation fails by itself, or what a service that it calls fails by. Whoever
handles faults handles these. That an operation is called off from outside, as it is when the
process has to end, is no fault: it passes by all who handle faults, and is not described here.

## Main definitions

* `Fault`: the causes.
* `Fault.kind`, `FaultKind.parent?`: the kinds of faults and what each is a special case of.
* `Fault.message`: the wording.
* `Fault.isSayable`: whether the numbers in the wording are short enough to be written.
* `Call`: the calls that the hall makes to the services around it, each of which can be out of
  order.
-/

namespace QuizHall

-- Powers are those of the core library, whatever else is imported.
attribute [local instance (2000)] instPowNat

/-! ### Calls to the services around the hall -/

/-- The calls that the hall makes to its stores, its ledger and its event sink. -/
inductive Call where
  /-- Storing a new quiz with its key. -/
  | quizCreate
  /-- Reading a quiz. -/
  | quizGet
  /-- Reading the key of a quiz. -/
  | quizGetKey
  /-- Removing a quiz with its key. -/
  | quizDelete
  /-- Appending an id to a bucket. -/
  | bucketAppend
  /-- Reading a bucket. -/
  | bucketGet
  /-- Reading and removing a bucket. -/
  | bucketDrain
  /-- Reading the counter. -/
  | counterGet
  /-- Moving the counter. -/
  | counterPut
  /-- Reading a rating. -/
  | ratingGet
  /-- Storing a rating. -/
  | ratingSave
  /-- Reading a balance. -/
  | balanceGet
  /-- Moving tokens between accounts. -/
  | transfer
  /-- Adding tokens to an account. -/
  | deposit
  /-- Publishing an event. -/
  | emit
  deriving DecidableEq

namespace Call

/-- The published name of a call. -/
def name : Call → String
  | quizCreate => "quiz.create"
  | quizGet => "quiz.get"
  | quizGetKey => "quiz.get_solution"
  | quizDelete => "quiz.delete"
  | bucketAppend => "bucket.append"
  | bucketGet => "bucket.get"
  | bucketDrain => "bucket.drain"
  | counterGet => "sequence.get_latest"
  | counterPut => "sequence.put"
  | ratingGet => "rating.get"
  | ratingSave => "rating.save"
  | balanceGet => "ledger.free_balance"
  | transfer => "ledger.transfer"
  | deposit => "ledger.deposit"
  | emit => "sink.emit"

/-- All calls. -/
def all : List Call :=
  [quizCreate, quizGet, quizGetKey, quizDelete, bucketAppend, bucketGet, bucketDrain, counterGet,
   counterPut, ratingGet, ratingSave, balanceGet, transfer, deposit, emit]

/-- Whether a call goes to the stores. -/
def reachesStores : Call → Bool
  | balanceGet | transfer | deposit | emit => false
  | _ => true

/-- The call of a name. -/
def ofName? (s : String) : Option Call := all.find? fun c => c.name = s

end Call

/-! ### Kinds of faults -/

/-- How callers tell faults apart. -/
inductive FaultKind where
  /-- Any fault at all. -/
  | any
  /-- Any fault of the rules of the hall. -/
  | hall
  /-- The arguments of a call are not valid. -/
  | validation
  /-- An answer is no number of an option. -/
  | invalidSolution
  /-- A quiz does not have five questions. -/
  | invalidQuestionCount
  /-- There is no such quiz. -/
  | quizNotFound
  /-- The caller may not do this. -/
  | authorization
  /-- The caller does not own the quiz. -/
  | notOwner
  /-- The caller owns the quiz. -/
  | ownerCannotAttempt
  /-- Nobody signed the call. -/
  | unauthenticated
  /-- The rating of the caller is below the gate. -/
  | ratingTooLow
  /-- The caller cannot pay for wrong answers. -/
  | insufficientBalance
  /-- The id of a quiz is taken. -/
  | alreadyExists
  /-- The ledger refuses a transfer. -/
  | insufficientFunds
  /-- A value is of no use. -/
  | badValue
  /-- Something is not in a state to be used. -/
  | unusable
  /-- A property has no setter. -/
  | unsettable
  /-- A record is rejected. -/
  | rejectedRecord
  /-- The system underneath failed. -/
  | system
  /-- A connection failed. -/
  | connection
  /-- A service failed in a way of its own. -/
  | foreign (name : String)
  deriving DecidableEq

namespace FaultKind

/-- The kind that a kind is a special case of. -/
def parent? : FaultKind → Option FaultKind
  | any => none
  | hall | insufficientFunds | badValue | unusable | unsettable | rejectedRecord | system
  | foreign _ => any
  | connection => system
  | validation | quizNotFound | authorization | unauthenticated | ratingTooLow
  | insufficientBalance | alreadyExists => hall
  | invalidSolution | invalidQuestionCount => validation
  | notOwner | ownerCannotAttempt => authorization

/-- A kind and everything that it is a special case of. No kind lies deeper than the fourth
level. -/
def chain (k : FaultKind) : List FaultKind :=
  let up (ks : List FaultKind) : List FaultKind :=
    ks ++ ((ks.getLast?.bind parent?).toList)
  up (up (up [k]))

end FaultKind

/-! ### Causes -/

/-- The servers that stores can live on. -/
inductive Server where
  /-- A Redis key space. -/
  | redis
  /-- A MySQL database. -/
  | mysql
  deriving DecidableEq

/-- Why an operation failed. -/
inductive Fault where
  /-- Nobody signed the call. -/
  | unsigned
  /-- A quiz was submitted with a wrong number of questions. -/
  | questionCount (got : Nat)
  /-- An answer of a key is no number of an option. -/
  | answerOutOfRange
  /-- There is no quiz of this number. -/
  | noQuiz (sequence : Int)
  /-- The quiz of this number has no key. -/
  | noKey (sequence : Int)
  /-- The account does not own the quiz. -/
  | notOwner (sequence : Int) (account : String)
  /-- The account owns the quiz and may not attempt it. -/
  | ownAttempt (sequence : Int) (account : String)
  /-- The rating is below the required one. -/
  | ratingTooLow (rating required sequence : Int)
  /-- The account has less than it would have to pay. -/
  | shortBalance (account : String) (balance needed : Int)
  /-- The ledger refused the payment. -/
  | paymentRefused (cause : Fault)
  /-- The id is taken. -/
  | idTaken (id : String)
  /-- The account cannot give that much away. -/
  | shortFunds (source : String) (amount balance : Int)
  /-- A deposit below zero. -/
  | negativeDeposit
  /-- A transfer below zero. -/
  | negativeTransfer
  /-- A score outside of the range of scores. -/
  | scoreOutOfRange (score : Int)
  /-- A number that does not fit into 64 bits. -/
  | beyondU64 (value : Int)
  /-- A delay that would let a quiz fall due at once. -/
  | delayTooShort
  /-- A counter value that is not above the latest one. -/
  | counterNotGrowing (next latest : Int)
  /-- The pool of connections to a server is not open. -/
  | poolClosed (server : Server)
  /-- Stored bytes that write no integer. -/
  | unreadableInteger (bytes : List UInt8)
  /-- Stored bytes that write an integer with too many digits. -/
  | overlongInteger (digits : Nat)
  /-- A key that holds a list where a text is wanted, or a text where a list is wanted. -/
  | wrongEntry
  /-- A stored id that is no text. -/
  | unreadableText
  /-- A record with issues. -/
  | rejected (issues : List Issue)
  /-- Fewer answers than questions. -/
  | tooFewAnswers (got : Nat)
  /-- More answers than questions. -/
  | tooManyAnswers
  /-- A record without such a field. -/
  | noField (model field : String)
  /-- A property of a record that cannot be set. -/
  | noSetter (model property : String)
  /-- A digest size that the hash function does not have. -/
  | digestSize
  /-- The call is out of order. -/
  | outage (call : Call) (kind : FaultKind)
  /-- The wait for the next tick was broken off. -/
  | stopped
  /-- The log file cannot be opened. -/
  | logFile
  /-- Something outside of the program failed, in words of its own. -/
  | outside (kind : FaultKind) (text : String)
  deriving DecidableEq

namespace Fault

/-! ### Numbers that are too long -/

/-- How many digits an integer may have that is read from stored bytes or stands in a message. -/
def maxDigits : Nat := 4300

/-- The least number that is too long to stand in a message. -/
def unwritable : Nat := 10 ^ maxDigits

/-- The numbers in the wording of a fault, other than counts. -/
def numbers : Fault → List Int
  | noQuiz n | noKey n | notOwner n _ | ownAttempt n _ | scoreOutOfRange n | beyondU64 n => [n]
  | ratingTooLow m n k => [m, n, k]
  | shortBalance _ m n | shortFunds _ m n | counterNotGrowing m n => [m, n]
  | paymentRefused cause => cause.numbers
  | _ => []

/-- Whether all numbers in the wording of a fault are short enough. -/
def isSayable (f : Fault) : Bool := f.numbers.all fun n => n.natAbs < unwritable

/-- A number of 64 bits is short enough. -/
theorem lt_unwritable {n : Nat} (h : n < 2 ^ (64 : Nat)) : n < unwritable :=
  calc n < 2 ^ (64 : Nat) := h
    _ ≤ 10 ^ (20 : Nat) := by decide
    _ ≤ 10 ^ maxDigits := Nat.pow_le_pow_right (by decide) (by decide)

/-! ### Kind and wording -/

/-- The kind that the cause of a fault asks for. -/
def causeKind : Fault → FaultKind
  | unsigned => .unauthenticated
  | questionCount _ => .invalidQuestionCount
  | answerOutOfRange => .invalidSolution
  | noQuiz _ | noKey _ => .quizNotFound
  | notOwner .. => .notOwner
  | ownAttempt .. => .ownerCannotAttempt
  | ratingTooLow .. => .ratingTooLow
  | shortBalance .. | paymentRefused _ => .insufficientBalance
  | idTaken _ => .alreadyExists
  | shortFunds .. => .insufficientFunds
  | negativeDeposit | negativeTransfer | scoreOutOfRange _ | beyondU64 _ | delayTooShort
  | counterNotGrowing .. | unreadableInteger _ | overlongInteger _ | tooFewAnswers _
  | tooManyAnswers | noField .. | digestSize | unreadableText | logFile => .badValue
  | poolClosed _ | stopped => .unusable
  | wrongEntry => .foreign "ResponseError"
  | noSetter .. => .unsettable
  | rejected _ => .rejectedRecord
  | outage _ kind | outside kind _ => kind

/-- The kind of a fault. If a number is too long for its wording, that is what went wrong. -/
def kind (f : Fault) : FaultKind := if f.isSayable then f.causeKind else .badValue

/-- The kind of a fault whose numbers are short enough is the one that its cause asks for. -/
theorem kind_of_isSayable {f : Fault} (h : f.isSayable = true) : f.kind = f.causeKind :=
  if_pos h

/-- A server by its published name. -/
def serverName : Server → String
  | .redis => "Redis"
  | .mysql => "MySQL"

/-- How many bytes, and how many characters of their literal, a message shows. -/
def literalWidth : Nat := 200

/-- What is said of an integer with too many digits. -/
def overlong : String :=
  "Exceeds the limit (" ++ Integer.natText maxDigits ++ " digits) for integer string conversion"

/-- What can be done about that. -/
def advice : String := "; use sys.set_int_max_str_digits() to increase the limit"

/-- The wording that the cause of a fault asks for. A rejected record is described by its issues
alone. -/
def causeMessage : Fault → String
  | unsigned => "The call must be signed"
  | questionCount got => "A quiz needs 5 questions, got " ++ Integer.natText got
  | answerOutOfRange => "Answers must be between 1 and 4"
  | noQuiz sequence => "Quiz " ++ Integer.text sequence ++ " does not exist"
  | noKey sequence => "Quiz " ++ Integer.text sequence ++ " has no solution"
  | notOwner sequence account =>
    "Quiz " ++ Integer.text sequence ++ " is not owned by " ++ account
  | ownAttempt sequence account => "Quiz " ++ Integer.text sequence ++ " belongs to " ++ account
  | ratingTooLow rating required sequence =>
    "Rating " ++ Integer.text rating ++ " is below " ++ Integer.text required ++
      " required by quiz " ++ Integer.text sequence
  | shortBalance account balance needed =>
    account ++ " has " ++ Integer.text balance ++ ", " ++ Integer.text needed ++ " needed"
  | paymentRefused cause => cause.causeMessage
  | idTaken id => "Quiz " ++ id ++ " already exists"
  | shortFunds source amount balance =>
    source ++ " can't pay " ++ Integer.text amount ++ " out of " ++ Integer.text balance
  | negativeDeposit => "Deposit amount can't be negative"
  | negativeTransfer => "Transfer amount can't be negative"
  | scoreOutOfRange score => "Score must be between 0 and 5, got " ++ Integer.text score
  | beyondU64 value => Integer.text value ++ " is out of the u64 range"
  | delayTooShort => "Deletion delay must be at least one tick"
  | counterNotGrowing next latest =>
    "Sequence must grow, " ++ Integer.text next ++ " after " ++ Integer.text latest
  | poolClosed server => serverName server ++ " pool is not created, call create_pool first"
  | unreadableInteger bytes => "invalid literal for int() with base 10: " ++
      String.ofList ((ByteLiteral.chars (bytes.take literalWidth)).take literalWidth)
  | overlongInteger digits =>
    overlong ++ ": value has " ++ Integer.natText digits ++ " digits" ++ advice
  | wrongEntry => "WRONGTYPE Operation against a key holding the wrong kind of value"
  | unreadableText => "invalid utf-8"
  | rejected _ => ""
  | tooFewAnswers got =>
    "not enough values to unpack (expected 5, got " ++ Integer.natText got ++ ")"
  | tooManyAnswers => "too many values to unpack (expected 5)"
  | noField model field => "\x22" ++ model ++ "\x22 object has no field \x22" ++ field ++ "\x22"
  | noSetter model property => "property '" ++ property ++ "' of '" ++ model ++
      "' object has no setter"
  | digestSize => "digest_size must be between 1 and 64 bytes"
  | outage call _ => call.name ++ " is down"
  | stopped => "stopped"
  | logFile => "Unable to configure handler 'file'"
  | outside _ text => text

/-- The wording of a fault. -/
def message (f : Fault) : String := if f.isSayable then f.causeMessage else overlong ++ advice

end Fault

end QuizHall
