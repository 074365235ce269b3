import QuizHall.Json.Token
import QuizHall.Text.Blank

/-!
# Integers in lenient notation

A string stands for an integer if it is one in the notation of JSON, or becomes one when it is
tidied up: blanks around it, one plus sign in front, leading zeros, a point followed by zeros, and
single underscores between digits are taken away. Zeros are led by anything that JSON lets an
integer begin with, so a minus sign may stand behind them, but not in front of them.

## Main definitions

* `LenientInteger.tidy?`: a string without what does not count.
* `LenientInteger.read`: the integer that a string stands for, or why it stands for none.
-/

namespace QuizHall.LenientInteger

/-- A text without the plus sign at its head, which no minus sign may follow. -/
def dropPlus? : List Char → Option (List Char)
  | '+' :: '-' :: _ => none
  | '+' :: r => some r
  | r => some r

/-- Whether an integer may begin with a character, other than with a zero. -/
def canLead (c : Char) : Bool := c = '-' || ('1' ≤ c && c ≤ '9')

/-- What follows a zero and more zeros and underscores, `last` being the latest of these. A zero or
underscore is kept where nothing else is left, or where a point follows. -/
def skipZeros? (last : Char) : List Char → Option (List Char)
  | [] => some [last]
  | c :: r =>
    if c = '0' || c = '_' then skipZeros? c r
    else if canLead c then some (c :: r)
    else if c = '.' then some (last :: c :: r)
    else none

/-- A text without its leading zeros. -/
def dropZeros? : List Char → Option (List Char)
  | '0' :: r => skipZeros? '0' r
  | c :: r => if canLead c then some (c :: r) else none
  | [] => none

/-- A text without the point and zeros at its end, if it ends so. -/
def dropZeroFraction (cs : List Char) : List Char :=
  match cs.dropWhile (· ≠ '.') with
  | '.' :: c :: r => if (c :: r).all (· = '0') then cs.takeWhile (· ≠ '.') else cs
  | _ => cs

/-- Whether a text has underscores, all of them between two other characters. -/
def hasInnerUnderscores (cs : List Char) : Bool := cs.contains '_' && Integer.separates cs

/-- A text without its underscores, if they stand between other characters only. -/
def dropUnderscores (cs : List Char) : List Char :=
  if hasInnerUnderscores cs then cs.filter (· ≠ '_') else cs

/-- A text without what does not count in an integer. -/
def tidy? (cs : List Char) : Option (List Char) := do
  let cs ← dropPlus? (Text.trim Text.isBlank cs)
  let cs ← dropZeros? cs
  return dropUnderscores (dropZeroFraction cs)

/-- The integer that a text stands for. The text as it is comes first, so one with too many digits
is refused for these, whatever else is wrong with it. -/
def read (cs : List Char) : Except Json.NotInteger Int :=
  match Json.plainInteger Json.maxWidth cs with
  | .ok n => .ok n
  | .error .overlong => .error .overlong
  | .error .malformed =>
    match tidy? cs with
    | some cs => Json.plainInteger Json.maxWidth cs
    | none => .error .malformed

example : (read " +0_1_0.00 ".toList).toOption = some 10 := by decide
example : (read "0-1".toList).toOption = some (-1) := by decide
example : (read "-01".toList).toOption = none := by decide
example : (read "5.".toList).toOption = none := by decide

end QuizHall.LenientInteger
