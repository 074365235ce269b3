import QuizHall.Json.Printer
import QuizHall.Text.Printable

/-!
# Strings as literals

How a string is shown inside another value: between single quotation marks, or between double
ones if it has a single but no double one in it. A backslash and the quotation mark get a backslash
in front, the three common control characters their short escape. Any other character that cannot
be shown as it is gets the shortest escape of two, four or eight hexadecimal digits.

## Main definitions

* `Literal.escape`: how one character stands between quotation marks.
* `Literal.chars`: the literal of a string.
* `Literal.shows`, `Literal.showsAscii`: the characters that can be shown as they are, everywhere
  and where only ASCII may be used.
-/

namespace QuizHall.Literal

-- Powers are those of the core library, whatever else is imported.
attribute [local instance (2000)] instPowNat

/-- The single quotation mark. -/
def singleQuote : Char := '\x27'

/-- The lowercase hexadecimal digits of a number, filled up with zeros to a width. -/
def hex (width n : Nat) : List Char :=
  (List.range width).reverse.map fun i => Json.hexDigit (n / 16 ^ i % 16)

/-- The escape of a character by its code point. -/
def codeEscape (n : Nat) : List Char :=
  if n < 0x100 then '\\' :: 'x' :: hex 2 n
  else if n < 0x10000 then '\\' :: 'u' :: hex 4 n
  else '\\' :: 'U' :: hex 8 n

/-- The characters that are shown as they are where every character may stand. -/
def shows (c : Char) : Bool := Text.isPrintable c

/-- The characters that are shown as they are where only ASCII may stand. -/
def showsAscii (c : Char) : Bool := Text.isPrintable c && decide (c.toNat < 128)

/-- How one character stands between quotation marks of a kind. -/
def escape (shown : Char → Bool) (mark c : Char) : List Char :=
  if c = mark ∨ c = '\\' then ['\\', c]
  else if c = '\t' then ['\\', 't']
  else if c = '\n' then ['\\', 'n']
  else if c = '\x0d' then ['\\', 'r']
  else if shown c then [c]
  else codeEscape c.toNat

/-- The quotation mark that a string is put between. -/
def mark (cs : List Char) : Char :=
  if cs.contains singleQuote && !cs.contains Json.quote then Json.quote else singleQuote

/-- The literal of a string. -/
def chars (shown : Char → Bool) (cs : List Char) : List Char :=
  mark cs :: (cs.flatMap (escape shown (mark cs)) ++ [mark cs])

example : String.ofList (chars shows "a\n\x00".toList) = "'a\\n\\x00'" := by decide +kernel
example : String.ofList (chars showsAscii "é\\".toList) = "'\\xe9\\\\'" := by decide +kernel

end QuizHall.Literal
