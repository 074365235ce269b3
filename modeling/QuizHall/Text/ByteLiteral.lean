import QuizHall.Json.Printer

/-!
# Bytes as a literal

How a stored byte string is shown in a message: `b`, then the bytes between single quotation
marks, where ASCII characters stand for themselves. A backslash and the quotation mark get a
backslash in front, the three common control characters their short escape, and every other byte
`\x` with two lowercase digits. Bytes with a single but without a double quotation mark are put
between double ones.

## Main definition

* `ByteLiteral.chars`: the literal of a byte string.
-/

namespace QuizHall.ByteLiteral

/-- The single quotation mark. -/
def singleQuote : Char := '\x27'

/-- How one byte stands between quotation marks of a kind. -/
def escape (mark : Char) (b : UInt8) : List Char :=
  let c := Char.ofNat b.toNat
  if c = mark ∨ c = '\\' then ['\\', c]
  else if c = '\t' then ['\\', 't']
  else if c = '\n' then ['\\', 'n']
  else if c = '\x0d' then ['\\', 'r']
  else if b.toNat < 32 ∨ b.toNat ≥ 127 then
    ['\\', 'x', Json.hexDigit (b.toNat / 16), Json.hexDigit (b.toNat % 16)]
  else [c]

/-- The quotation mark that a byte string is put between. -/
def mark (bytes : List UInt8) : Char :=
  if bytes.contains 0x27 && !bytes.contains 0x22 then Json.quote else singleQuote

/-- The characters of the literal of a byte string. -/
def chars (bytes : List UInt8) : List Char :=
  'b' :: mark bytes :: (bytes.flatMap (escape (mark bytes)) ++ [mark bytes])

example : String.ofList (chars [0x78, 0x00, 0xc3]) = "b'x\\x00\\xc3'" := by decide

end QuizHall.ByteLiteral
