import QuizHall.Table
import QuizHall.Template.Number
import QuizHall.Text.Literal

/-!
# Values as text

How a value stands in a message. A string stands there as it is, unless it is inside of another
value or a literal is asked for. Lists and records show their items as literals.

## Main definitions

* `literalChars`: the literal of a value.
* `plainChars`, `plain`: a value as it stands in a message.
* `kindWord`: the word for the kind of a value.
-/

namespace QuizHall.Template

open Json (Value)

/-- Texts with a comma and a blank between them. -/
def joinChars : List (List Char) → List Char
  | [] => []
  | [cs] => cs
  | cs :: r => cs ++ ',' :: ' ' :: joinChars r

mutual

/-- The literal of a value, with the characters that a string may show as they are. -/
def literalChars (shown : Char → Bool) : Value → List Char
  | .null => ['N', 'o', 'n', 'e']
  | .flag true => ['T', 'r', 'u', 'e']
  | .flag false => ['F', 'a', 'l', 's', 'e']
  | .int n => Integer.chars n
  | .float x => shortestChars x
  | .text s => Literal.chars shown s.toList
  | .list vs => '[' :: (joinChars (itemLiterals shown vs) ++ [']'])
  | .object fs =>
    let fields := (Table.ofList (fieldLiterals shown fs)).entries
    '\x7b' :: (joinChars (fields.map fun f =>
      Literal.chars shown f.1.toList ++ ':' :: ' ' :: f.2) ++ ['\x7d'])

/-- The literals of the items of a list. -/
def itemLiterals (shown : Char → Bool) : List Value → List (List Char)
  | [] => []
  | v :: vs => literalChars shown v :: itemLiterals shown vs

/-- The names of the fields of a record with the literals of their values. -/
def fieldLiterals (shown : Char → Bool) : List (String × Value) → List (String × List Char)
  | [] => []
  | (n, v) :: fs => (n, literalChars shown v) :: fieldLiterals shown fs

end

/-- A value as it stands in a message. -/
def plainChars : Value → List Char
  | .text s => s.toList
  | v => literalChars Literal.shows v

/-- A value as it stands in a message, as a string. -/
def plain (v : Value) : String := String.ofList (plainChars v)

/-- The word for the kind of a value. -/
def kindWord : Value → String
  | .null => "NoneType"
  | .flag _ => "bool"
  | .int _ => "int"
  | .float _ => "float"
  | .text _ => "str"
  | .list _ => "list"
  | .object _ => "dict"

end QuizHall.Template
