import QuizHall.Json.Reader
import QuizHall.Validation.Checked
import QuizHall.Validation.LenientInteger

/-!
# Rules for single fields

A rule turns a JSON value into a value of the library or says what is wrong with it. Rules are
lenient in what they accept: a number may come as a string, an integer as a double without a
fraction, a truth value as one of a few words.

## Main definitions

* `Rule.text`, `Rule.integer`, `Rule.atLeast`, `Rule.byte`, `Rule.flag`, `Rule.positive`,
  `Rule.oneOf`, `Rule.orNull`: the rules.
* `Form`: the fields of a record while they are being read.
* `Form.required`, `Form.withDefault`: the check of one field.
-/

namespace QuizHall

-- Powers are those of the core library, whatever else is imported.
attribute [local instance (2000)] instPowNat

open Json (Value)

/-- Where a record comes from. It decides how a value that is no record is called, and how a
number beyond the range of doubles is taken. -/
inductive Source where
  /-- A value that is already in memory. -/
  | memory
  /-- A JSON text. -/
  | json
  deriving DecidableEq

/-- A check of a JSON value. -/
abbrev Rule (α : Type) := Value → Checked α

namespace Rule

variable {α : Type}

/-- Strings only. -/
def text : Rule String
  | .text s => .accepted s
  | _ => .complain .notText

/-! ### Integers -/

/-- Whether an integer fits into 64 bits with a sign. -/
def fitsWord (n : Int) : Bool := -2 ^ (63 : Nat) ≤ n && n < 2 ^ (63 : Nat)

/-- The integer that a string stands for. -/
def readInteger (s : String) : Checked Int :=
  match LenientInteger.read s.toList with
  | .ok n => .accepted n
  | .error .overlong => .complain .oversizedInteger
  | .error .malformed => .complain .unreadableInteger

/-- The integer that a double is. It has to lie strictly between the bounds of 64 bits with a
sign, since a double on one of these may stand for an integer beyond it. -/
def readFloat (x : Float) : Checked Int :=
  match integerOfFloat? x with
  | some n =>
    if fitsWord n && n ≠ -2 ^ (63 : Nat) then .accepted n else .complain .oversizedInteger
  | none => .complain (if x.isFinite then .fraction else .notFinite)

/-- An integer, a truth value as 1 or 0, a double without fraction, or a string that stands for an
integer. -/
def integer : Rule Int
  | .int n => .accepted n
  | .flag b => .accepted (if b then 1 else 0)
  | .float x => readFloat x
  | .text s => readInteger s
  | _ => .complain .notInteger

/-- An integer that is not below `least`. -/
def atLeast (least : Int) : Rule { n : Int // least ≤ n } := fun v =>
  (integer v).andThen fun n =>
    if h : least ≤ n then .accepted ⟨n, h⟩ else .complain (.below least)

/-- An integer from 0 to 255. -/
def byte : Rule (Fin 256) := fun v =>
  (integer v).andThen fun n =>
    if h : n < 0 then .complain (.below 0)
    else if g : n > 255 then .complain (.above 255)
    else .accepted ⟨n.toNat, by omega⟩

/-! ### Other scalars -/

/-- The words for a truth value, in any ASCII case. -/
def readFlag? (s : String) : Option Bool :=
  let word := String.ofList (s.toList.map Char.toLower)
  if word ∈ ["0", "off", "f", "false", "n", "no"] then some false
  else if word ∈ ["1", "on", "t", "true", "y", "yes"] then some true
  else none

/-- The truth value of an integer. One that does not fit into 64 bits is not looked at. -/
def flagOfInteger (n : Int) : Checked Bool :=
  if n = 0 then .accepted false
  else if n = 1 then .accepted true
  else .complain (if fitsWord n then .unreadableFlag else .notFlag)

/-- A truth value, as itself, as 0 or 1, or as a word. -/
def flag : Rule Bool
  | .flag b => .accepted b
  | .int n => flagOfInteger n
  | .float x =>
    match readFloat x with
    | .accepted n => flagOfInteger n
    | .rejected _ => .complain .notFlag
  | .text s =>
    match readFlag? s with
    | some b => .accepted b
    | none => .complain .unreadableFlag
  | _ => .complain .notFlag

/-- The double that a string writes. Blanks around it do not count; neither do single underscores
inside of it, but in a string with underscores blanks do count. -/
def readNumber? (s : String) : Option Float :=
  (Decimal.readFloat (Text.trim Text.isBlank s.toList)).or
    (if LenientInteger.hasInnerUnderscores s.toList then
      Decimal.readFloat (s.toList.filter (· ≠ '_'))
    else none)

/-- A number, a truth value as 1 or 0, or a string that writes a number. An integer in memory has
to lie within the range of doubles; in a JSON text it may lie beyond that. -/
def number (source : Source) : Rule Float
  | .int n =>
    let x := Decimal.floatOfInt n
    if source = .memory && !x.isFinite then .complain .notNumber else .accepted x
  | .float x => .accepted x
  | .flag b => .accepted (if b then 1.0 else 0.0)
  | .text s =>
    match readNumber? s with
    | some x => .accepted x
    | none => .complain .unreadableNumber
  | _ => .complain .notNumber

/-- A number greater than zero; infinity is one. -/
def positive (source : Source) : Rule Float := fun v =>
  (number source v).andThen fun x => if 0.0 < x then .accepted x else .complain .notPositive

/-- One of some words, each with the value that it names. -/
def oneOf (choices : List (String × α)) : Rule α := fun v =>
  let found : Option α := match v with
    | .text s => choices.lookup s
    | _ => none
  match found with
  | some a => .accepted a
  | none => .complain (.notAllowed (choices.map Prod.fst))

/-- A rule that also takes `null`. -/
def orNull (rule : Rule α) : Rule (Option α)
  | .null => .accepted none
  | v => (rule v).map some

/-- A list of exactly `size` items. A longer one is rejected without a look at its items, a
shorter one only if all its items are accepted. -/
def listOf (size : Nat) (rule : Rule α) : Rule { as : List α // as.length = size }
  | .list vs =>
    if vs.length > size then .complain (.tooLong size vs.length)
    else (Checked.each rule 0 vs).andThen fun as =>
      if h : as.length = size then .accepted ⟨as, h⟩ else .complain (.tooShort size as.length)
  | _ => .complain .notList

end Rule

/-! ### Records -/

/-- The fields of a record while they are being read. -/
abbrev Form := List (String × Value)

namespace Form

variable {α : Type}

/-- The fields of a value that has to be a record of `model`. -/
def ofValue (source : Source) (model : String) : Rule Form
  | .object fields => .accepted fields
  | _ => .complain (match source with
    | .memory => .notRecord model
    | .json => .notObject)

/-- The check of a field that has to be there. -/
def required (form : Form) (name : String) (rule : Rule α) : Checked α :=
  Checked.under (.field name)
    (match Json.field? name form with
    | some v => rule v
    | none => .complain .missing)

/-- The check of a field that has a default; the default itself is not checked. -/
def withDefault (form : Form) (name : String) (rule : Rule α) (default : α) : Checked α :=
  match Json.field? name form with
  | some v => (rule v).under (.field name)
  | none => .accepted default

end Form

/-- The record that a JSON text holds. -/
def Checked.ofText {α : Type} (rule : Rule α) (text : String) : Checked α :=
  match Json.read text with
  | some v => rule v
  | none => .complain .notJson

end QuizHall
