import QuizHall.Quiz.Record
import QuizHall.Table
import QuizHall.Validation.Verdict

/-!
# Stores in a key space

One flat map from names to byte strings and lists of byte strings holds every kind of record:
quizzes and keys as compact JSON, ratings and the counter as decimal integers, buckets as lists
of ids. The name of a key begins with the kind of what it holds, so keys of two kinds never
clash, whatever ids and accounts are called.

## Main definitions

* `KeySpace`: the map.
* `Key.quiz`, `Key.solution`, `Key.bucket`, `Key.rating`, `Key.counter`: the names of keys.
* `KeySpace.quiz?`, `KeySpace.key?`, `KeySpace.integer`, `KeySpace.bucket`: what is read.
* `KeySpace.createQuiz`, `KeySpace.deleteQuiz`, `KeySpace.appendBucket`,
  `KeySpace.removeKey`, `KeySpace.putInteger`: what is written.
-/

namespace QuizHall

/-- What a key holds. -/
inductive Entry where
  /-- A byte string. -/
  | bytes (data : ByteArray)
  /-- A list of byte strings. -/
  | list (items : List ByteArray)

/-- A flat map from names to byte strings and lists of byte strings. -/
abbrev KeySpace := Table String Entry

/-! ### Names of keys -/

namespace Key

/-- Where the quiz of an id is kept. -/
def quiz (id : String) : String := "quiz:" ++ id

/-- Where the key of a quiz is kept. -/
def solution (id : String) : String := "solution:" ++ id

/-- Where a bucket is kept. -/
def bucket (id : String) : String := "bucket:" ++ id

/-- Where the rating of an account is kept. -/
def rating (account : String) : String := "rating:" ++ account

/-- Where the counter is kept. -/
def counter : String := "quiz_sequence"

end Key

namespace KeySpace

/-! ### Texts, integers and lists -/

/-- The byte string under a name, if something is there. -/
def bytes? (ks : KeySpace) (name : String) : Except Fault (Option ByteArray) :=
  match ks.find? name with
  | none => .ok none
  | some (.bytes data) => .ok (some data)
  | some (.list _) => .error .wrongEntry

/-- Puts a text under a name. -/
def putText (ks : KeySpace) (name text : String) : KeySpace :=
  ks.insert name (.bytes text.toUTF8)

/-- Puts an integer under a name. -/
def putInteger (ks : KeySpace) (name : String) (n : Int) : KeySpace :=
  ks.putText name (Integer.text n)

/-- The integer that bytes write: ASCII blanks around it do not count. Too many digits are refused
whatever stands behind them. -/
def readInteger (data : ByteArray) : Except Fault Int :=
  let cs := Text.trim Text.isAsciiBlank (data.data.toList.map fun b => Char.ofNat b.toNat)
  let digits := Integer.countDigits cs
  if Fault.maxDigits < digits then .error (.overlongInteger digits)
  else match Integer.read cs with
    | some n => .ok n
    | none => .error (.unreadableInteger data.data.toList)

/-- The integer under a name; zero if nothing is there. -/
def integer (ks : KeySpace) (name : String) : Except Fault Int := do
  match ← ks.bytes? name with
  | some data => readInteger data
  | none => return 0

/-- The list under a name; empty if nothing is there. -/
def items (ks : KeySpace) (name : String) : Except Fault (List ByteArray) :=
  match ks.find? name with
  | none => .ok []
  | some (.list items) => .ok items
  | some (.bytes _) => .error .wrongEntry

/-- Removes what is under a name. -/
def removeKey (ks : KeySpace) (name : String) : KeySpace := ks.erase name

/-! ### Records -/

/-- The record that a byte string holds; the empty one holds none. -/
def readRecord {α : Type} (rule : Rule α) (data : ByteArray) : Except Fault (Option α) :=
  if data.isEmpty then .ok none
  else
    let checked : Checked α := match String.fromUTF8? data with
      | some text => Checked.ofText rule text
      | none => .complain .notJson
    checked.toExcept.map some

/-- The record under a name. -/
def record? {α : Type} (ks : KeySpace) (rule : Rule α) (name : String) :
    Except Fault (Option α) := do
  match ← ks.bytes? name with
  | some data => readRecord rule data
  | none => return none

/-- The quiz of an id. -/
def quiz? (ks : KeySpace) (id : String) : Except Fault (Option Quiz) :=
  ks.record? (Quiz.ofValue .json) (Key.quiz id)

/-- The key of the quiz of an id. -/
def key? (ks : KeySpace) (id : String) : Except Fault (Option Answers) :=
  ks.record? (Answers.ofValue .json) (Key.solution id)

/-- Stores a quiz and its key under an id at which neither is kept, not even as an empty text. -/
def createQuiz (ks : KeySpace) (id : String) (quiz : Quiz) (key : Answers) :
    Except Fault KeySpace :=
  if ks.contains (Key.quiz id) ∨ ks.contains (Key.solution id) then .error (.idTaken id)
  else .ok ((ks.putText (Key.quiz id) quiz.toValue.compact).putText
    (Key.solution id) key.toValue.compact)

/-- Removes a quiz and its key, as far as they are there. -/
def deleteQuiz (ks : KeySpace) (id : String) : KeySpace :=
  (ks.removeKey (Key.quiz id)).removeKey (Key.solution id)

/-! ### Buckets -/

/-- The texts that a list of byte strings holds. -/
def readTexts : List ByteArray → Except Fault (List String)
  | [] => .ok []
  | data :: rest =>
    match String.fromUTF8? data with
    | some text => (readTexts rest).map (text :: ·)
    | none => .error .unreadableText

/-- The ids in a bucket. -/
def bucket (ks : KeySpace) (id : String) : Except Fault (List String) := do
  readTexts (← ks.items (Key.bucket id))

/-- Appends an id to a bucket. -/
def appendBucket (ks : KeySpace) (bucket id : String) : Except Fault KeySpace := do
  let items ← ks.items (Key.bucket bucket)
  return ks.insert (Key.bucket bucket) (.list (items ++ [id.toUTF8]))

end KeySpace

end QuizHall
