import QuizHall.Json.Value
import QuizHall.Text.Decimal

/-!
# Compact JSON text

The one-line form of a JSON value: no blanks, every character from U+007F on as itself, a short
escape where JSON has one, and `\u00xx` in lowercase for the other control characters.

## Main definitions

* `Json.escape`: how one character stands in a string.
* `Json.Value.chars`, `Json.Value.compact`: the compact text of a value.
-/

namespace QuizHall.Json

-- Powers are those of the core library, whatever else is imported.
attribute [local instance (2000)] instPowNat

/-! ### Strings -/

/-- The quotation mark that opens and closes a string. -/
def quote : Char := '\x22'

/-- The lowercase hexadecimal digit of a number below 16. -/
def hexDigit (n : Nat) : Char := Nat.digitChar n

/-- How one character is written inside a string. -/
def escape (c : Char) : List Char :=
  if c = quote then ['\\', quote]
  else if c = '\\' then ['\\', '\\']
  else if c = '\x08' then ['\\', 'b']
  else if c = '\x0c' then ['\\', 'f']
  else if c = '\n' then ['\\', 'n']
  else if c = '\x0d' then ['\\', 'r']
  else if c = '\t' then ['\\', 't']
  else if c.toNat < 32 then
    ['\\', 'u', '0', '0', hexDigit (c.toNat / 16), hexDigit (c.toNat % 16)]
  else [c]

/-- A string between quotation marks. -/
def quoted (cs : List Char) : List Char := quote :: (cs.flatMap escape ++ [quote])

/-! ### Numbers -/

/-- A double as its exact decimal expansion: `m · 2 ^ -k` is `m · 5 ^ k` times `10 ^ -k`. What is
no finite number is written `null`, since JSON has no text for it. -/
def floatChars (x : Float) : List Char :=
  match integerOfFloat? x with
  | some n => Integer.chars n ++ ['.', '0']
  | none =>
    let bits := x.toBits.toNat
    let e := bits / 2 ^ (52 : Nat) % 2 ^ (11 : Nat)
    let m := bits % 2 ^ (52 : Nat) + (if e = 0 then 0 else 2 ^ (52 : Nat))
    let k := 1075 - (if e = 0 then 1 else e)
    if e = 2047 then ['n', 'u', 'l', 'l']
    else (if bits / 2 ^ (63 : Nat) = 1 then ['-'] else []) ++
      Integer.digits (m * 5 ^ k) ++ ['e', '-'] ++ Integer.digits k

/-! ### Values -/

mutual

/-- The compact text of a value. -/
def Value.chars : Value → List Char
  | .null => ['n', 'u', 'l', 'l']
  | .flag true => ['t', 'r', 'u', 'e']
  | .flag false => ['f', 'a', 'l', 's', 'e']
  | .int n => Integer.chars n
  | .float x => floatChars x
  | .text s => quoted s.toList
  | .list [] => ['[', ']']
  | .list (v :: vs) => '[' :: (v.chars ++ itemsChars vs)
  | .object [] => ['\x7b', '\x7d']
  | .object ((n, v) :: fs) =>
    '\x7b' :: (quoted n.toList ++ ':' :: (v.chars ++ fieldsChars fs))

/-- The items after the first one, each behind a comma, and the closing bracket. -/
def itemsChars : List Value → List Char
  | [] => [']']
  | v :: vs => ',' :: (v.chars ++ itemsChars vs)

/-- The fields after the first one, each behind a comma, and the closing brace. -/
def fieldsChars : List (String × Value) → List Char
  | [] => ['\x7d']
  | (n, v) :: fs => ',' :: (quoted n.toList ++ ':' :: (v.chars ++ fieldsChars fs))

end

/-- The compact text of a value, as a string. -/
def Value.compact (v : Value) : String := String.ofList v.chars

end QuizHall.Json
