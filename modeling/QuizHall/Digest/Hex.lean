/-!
# Bytes as hexadecimal text

## Main definitions

* `Hex.encode`: two lowercase digits for every byte.
* `Hex.decode?`: the bytes that a text of digit pairs writes.
* `Hex.chunk`: one of the equal pieces of a list of bytes.
-/

namespace QuizHall.Hex

/-- Two lowercase digits for every byte. -/
def encode (bytes : List UInt8) : String :=
  String.ofList (bytes.flatMap fun b =>
    [Nat.digitChar (b.toNat / 16), Nat.digitChar (b.toNat % 16)])

/-- The value of a digit of either case. -/
def digit? (c : Char) : Option Nat :=
  let n := c.toNat
  if 48 ≤ n ∧ n ≤ 57 then some (n - 48)
  else if 97 ≤ n ∧ n ≤ 102 then some (n - 87)
  else if 65 ≤ n ∧ n ≤ 70 then some (n - 55)
  else none

/-- The bytes that pairs of digits write. -/
def decodeChars? : List Char → Option (List UInt8)
  | [] => some []
  | a :: b :: r => do
    let high ← digit? a
    let low ← digit? b
    let rest ← decodeChars? r
    return UInt8.ofNat (high * 16 + low) :: rest
  | [_] => none

/-- The bytes that a text of digit pairs writes. -/
def decode? (text : String) : Option (List UInt8) := decodeChars? text.toList

/-- The piece number `i` of pieces of `size` bytes, filled up with zeros. -/
def chunk (size : Nat) (bytes : List UInt8) (i : Nat) : List UInt8 :=
  let piece := (bytes.drop (size * i)).take size
  piece ++ List.replicate (size - piece.length) 0

example : encode [0, 0x0f, 0xa0] = "000fa0" := by decide
example : decode? "000FA0" = some [0, 0x0f, 0xa0] := by decide

end QuizHall.Hex
