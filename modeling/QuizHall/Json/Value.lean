/-!
# JSON values

The values that records are read from and written as. An object is the list of its fields in
the order in which they were written; where a name stands twice, the last field counts.

## Main definitions

* `Json.Value`: a JSON value, with whole numbers and doubles kept apart.
* `Json.field?`: the field of a name, among the fields of an object.
-/

namespace QuizHall.Json

/-- A JSON value. A number is an integer of any size or a double. -/
inductive Value where
  /-- The value `null`. -/
  | null
  /-- The values `true` and `false`. -/
  | flag (b : Bool)
  /-- A number without point and exponent. -/
  | int (n : Int)
  /-- Any other number. -/
  | float (x : Float)
  /-- A string. -/
  | text (s : String)
  /-- An array. -/
  | list (items : List Value)
  /-- An object, with its fields in the order of their writing. -/
  | object (fields : List (String × Value))
  deriving BEq, Inhabited

/-- The field called `name`; the last one, where there are several. -/
def field? (name : String) : List (String × Value) → Option Value
  | [] => none
  | (n, v) :: r => (field? name r).or (if n = name then some v else none)

/-- An array of strings. -/
def Value.texts (ss : List String) : Value := .list (ss.map .text)

/-- A string, or `null` for its absence. -/
def Value.textOrNull : Option String → Value
  | some s => .text s
  | none => .null

end QuizHall.Json
