import QuizHall.Text.Integer

/-!
# What can be wrong with a record

An issue is a complaint about one value inside a record, together with the path to that value.

## Main definitions

* `Complaint`: what is wrong with a value.
* `Complaint.code`, `Complaint.message?`: its published name and wording.
* `Issue`: a complaint and the path to the value it is about.
-/

namespace QuizHall

/-- What is wrong with a value. -/
inductive Complaint where
  /-- A required field is absent. -/
  | missing
  /-- The value is no string. -/
  | notText
  /-- The value cannot stand for an integer. -/
  | notInteger
  /-- The string writes no integer. -/
  | unreadableInteger
  /-- The number has too many digits, or is too large a double, where an integer is wanted. -/
  | oversizedInteger
  /-- The number has a fraction where an integer is wanted. -/
  | fraction
  /-- The number is infinite, or no number, where an integer is wanted. -/
  | notFinite
  /-- The value cannot stand for a number. -/
  | notNumber
  /-- The string writes no number. -/
  | unreadableNumber
  /-- The value cannot stand for a truth value. -/
  | notFlag
  /-- The string or number names no truth value. -/
  | unreadableFlag
  /-- The number lies below its least value. -/
  | below (least : Int)
  /-- The number lies above its greatest value. -/
  | above (greatest : Int)
  /-- The number has to be greater than zero. -/
  | notPositive
  /-- The value is none of the allowed words. -/
  | notAllowed (words : List String)
  /-- The value is no list. -/
  | notList
  /-- The list has more items than allowed. -/
  | tooLong (limit size : Nat)
  /-- The list has fewer items than wanted. -/
  | tooShort (limit size : Nat)
  /-- The value in memory is no record of the model. -/
  | notRecord (model : String)
  /-- The JSON text holds something other than an object. -/
  | notObject
  /-- The text is no JSON. -/
  | notJson
  /-- The record does not allow changes. -/
  | frozen
  deriving DecidableEq

namespace Complaint

/-- The published name of a complaint. -/
def code : Complaint → String
  | missing => "missing"
  | notText => "string_type"
  | notInteger => "int_type"
  | unreadableInteger => "int_parsing"
  | oversizedInteger => "int_parsing_size"
  | fraction => "int_from_float"
  | notFinite => "finite_number"
  | notNumber => "float_type"
  | unreadableNumber => "float_parsing"
  | notFlag => "bool_type"
  | unreadableFlag => "bool_parsing"
  | below _ => "greater_than_equal"
  | above _ => "less_than_equal"
  | notPositive => "greater_than"
  | notAllowed _ => "literal_error"
  | notList => "list_type"
  | tooLong .. => "too_long"
  | tooShort .. => "too_short"
  | notRecord _ | notObject => "model_type"
  | notJson => "json_invalid"
  | frozen => "frozen_instance"

/-- Words between quotation marks, with `or` before the last one and commas before that. -/
def alternatives : List String → String
  | [] => ""
  | [w] => "'" ++ w ++ "'"
  | [v, w] => "'" ++ v ++ "' or '" ++ w ++ "'"
  | w :: ws => "'" ++ w ++ "', " ++ alternatives ws

/-- The wording of a complaint. That a text is no JSON is left without one, since its wording
would have to name the place of the error. -/
def message? : Complaint → Option String
  | missing => "Field required"
  | notText => "Input should be a valid string"
  | notInteger => "Input should be a valid integer"
  | unreadableInteger =>
    "Input should be a valid integer, unable to parse string as an integer"
  | oversizedInteger =>
    "Unable to parse input string as an integer, exceeded maximum size"
  | fraction => "Input should be a valid integer, got a number with a fractional part"
  | notFinite => "Input should be a finite number"
  | notNumber => "Input should be a valid number"
  | unreadableNumber => "Input should be a valid number, unable to parse string as a number"
  | notFlag => "Input should be a valid boolean"
  | unreadableFlag => "Input should be a valid boolean, unable to interpret input"
  | below n => "Input should be greater than or equal to " ++ Integer.text n
  | above n => "Input should be less than or equal to " ++ Integer.text n
  | notPositive => "Input should be greater than 0"
  | notAllowed words => "Input should be " ++ alternatives words
  | notList => "Input should be a valid list"
  | tooLong limit size => "List should have at most " ++ Integer.natText limit ++
      " items after validation, not " ++ Integer.natText size
  | tooShort limit size => "List should have at least " ++ Integer.natText limit ++
      " items after validation, not " ++ Integer.natText size
  | notRecord model => "Input should be a valid dictionary or instance of " ++ model
  | notObject => "Input should be an object"
  | notJson => none
  | frozen => "Instance is frozen"

end Complaint

/-- One step on the way to a value inside a record. -/
inductive PathStep where
  /-- To the field of a name. -/
  | field (name : String)
  /-- To the item of an index, counted from zero. -/
  | index (i : Nat)
  deriving DecidableEq

/-- A complaint about one value inside a record. -/
structure Issue where
  /-- The way to the value, from the outside in. -/
  path : List PathStep
  /-- What is wrong with the value. -/
  complaint : Complaint
  deriving DecidableEq

end QuizHall
