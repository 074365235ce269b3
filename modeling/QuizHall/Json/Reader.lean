import QuizHall.Json.Token

/-!
# Reading JSON

A JSON text holds one value. The reader walks over the tokens and keeps the arrays and objects
that are still open as a stack, so it is one recursion over the list of tokens. How many of them
may be open at a time is limited, and so is the length of a number; an array or object without
anything in it does not count as open.

## Main definitions

* `Json.Limits`: how deep a text may be nested, and how long its numbers may be.

* `Json.State`: what may come next, and which arrays and objects are open.
* `Json.read`: the value that a text holds.
-/

namespace QuizHall.Json

/-- An array or object in which a value is being read, with what stands before that value, last
first. -/
inductive Frame where
  /-- An array with the items so far. -/
  | items (done : List Value)
  /-- An object with the fields so far and the name of the field being read. -/
  | fields (done : List (String × Value)) (name : String)

/-- Where the reader stands. The stack lists what is open around it, innermost first. -/
inductive State where
  /-- Before a value. -/
  | value (stack : List Frame)
  /-- Behind the bracket that opens an array. -/
  | first (stack : List Frame)
  /-- Behind an item of an array. -/
  | afterItem (stack : List Frame) (done : List Value)
  /-- Behind the brace that opens an object. -/
  | firstName (stack : List Frame)
  /-- Before the name of a field. -/
  | name (stack : List Frame) (done : List (String × Value))
  /-- Behind the name of a field. -/
  | afterName (stack : List Frame) (done : List (String × Value)) (name : String)
  /-- Behind a field of an object. -/
  | afterField (stack : List Frame) (done : List (String × Value))
  /-- Behind the value of the whole text. -/
  | finished (v : Value)

/-- The state behind a value, by what is open around it. -/
def complete (v : Value) : List Frame → State
  | [] => .finished v
  | .items done :: s => .afterItem s (v :: done)
  | .fields done n :: s => .afterField s ((n, v) :: done)

/-- The state behind the first token of a value. -/
def enter (stack : List Frame) : Token → Option State
  | .atom v => some (complete v stack)
  | .text s => some (complete (.text s) stack)
  | .openList => some (.first stack)
  | .openObject => some (.firstName stack)
  | _ => none

/-- One token; `none` if it may not stand here. An array or object is open from its first item or
name on. -/
def advance (depth : Nat) : State → Token → Option State
  | .value s, t => enter s t
  | .first s, .closeList => some (complete (.list []) s)
  | .first s, t => if s.length < depth then enter (.items [] :: s) t else none
  | .afterItem s done, .comma => some (.value (.items done :: s))
  | .afterItem s done, .closeList => some (complete (.list done.reverse) s)
  | .firstName s, .closeObject => some (complete (.object []) s)
  | .firstName s, .text n => if s.length < depth then some (.afterName s [] n) else none
  | .name s done, .text n => some (.afterName s done n)
  | .afterName s done n, .colon => some (.value (.fields done n :: s))
  | .afterField s done, .comma => some (.name s done)
  | .afterField s done, .closeObject => some (complete (.object done.reverse) s)
  | _, _ => none

/-- All tokens, one after the other. -/
def advanceAll (depth : Nat) (st : State) : List Token → Option State
  | [] => some st
  | t :: ts =>
    match advance depth st t with
    | some st' => advanceAll depth st' ts
    | none => none

/-- How large a text may become in two respects. -/
structure Limits where
  /-- How many arrays and objects may be open at a time. -/
  depth : Nat := 200
  /-- How many characters a number may have in front of its point. -/
  width : Nat := maxWidth

/-- The value that a text holds, within limits. -/
def readWithin (limits : Limits) (cs : List Char) : Option Value :=
  match tokens? limits.width cs with
  | none => none
  | some ts =>
    match advanceAll limits.depth (.value []) ts with
    | some (.finished v) => some v
    | _ => none

/-- The value that a text holds. -/
def read (text : String) : Option Value := readWithin {} text.toList

end QuizHall.Json
