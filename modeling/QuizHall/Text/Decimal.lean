import QuizHall.Text.Integer

/-!
# Decimal numbers as text

Decimal notation with an optional fraction and an optional exponent, its value as the nearest
double, and the way back from a double to the integer that it is.

## Main definitions

* `Decimal`: a sign, the digits as one natural number, and a power of ten.
* `Decimal.read`: decimal notation, with digits before or after an optional point.
* `Decimal.toFloat`: the nearest double, an even significand on a tie.
* `Decimal.readFloat`: decimal notation, or one of the words for infinity and for no number.
* `integerOfFloat?`: the integer that a double is, if it has no fraction.
-/

namespace QuizHall

-- Powers are those of the core library, whatever else is imported.
attribute [local instance (2000)] instPowNat

/-- The number `± digits · 10 ^ exponent`. -/
structure Decimal where
  /-- Whether a minus sign stands in front. -/
  negative : Bool
  /-- The written digits without the point. -/
  digits : Nat
  /-- The power of ten that the digits are multiplied by. -/
  exponent : Int
  deriving DecidableEq

namespace Decimal

/-! ### The nearest double -/

/-- The double above every finite one. -/
def infinity : Float := 1.0 / 0.0

/-- The double that is no number. -/
def notANumber : Float := 0.0 / 0.0

/-- The nearest double to `digits · 10 ^ exponent`. No double but zero lies below `10 ^ -330` and
no finite one above `10 ^ 310`, so outside of these the power of ten need not be worked out. -/
def magnitude (digits : Nat) (exponent : Int) : Float :=
  let order := (Integer.digits digits).length + exponent
  if digits = 0 then 0.0
  else if order > 310 then infinity
  else if order < -330 then 0.0
  else Float.ofScientific digits (exponent < 0) exponent.natAbs

/-- The nearest double, with its sign also on zero. -/
def toFloat (d : Decimal) : Float :=
  if d.negative then -(magnitude d.digits d.exponent) else magnitude d.digits d.exponent

/-- The nearest double to an integer. -/
def floatOfInt (n : Int) : Float := toFloat ⟨n < 0, n.natAbs, 0⟩

/-! ### Reading decimal notation -/

/-- The digits at the head of a text, as their values, and what follows them. -/
def spanDigits : List Char → List Nat × List Char
  | [] => ([], [])
  | c :: r =>
    match Integer.digit? c with
    | some d => (d :: (spanDigits r).1, (spanDigits r).2)
    | none => ([], c :: r)

/-- The number that decimal digits write. -/
def ofDigits (ds : List Nat) : Nat := ds.foldl (fun n d => n * 10 + d) 0

/-- An optional sign: whether it is a minus, and what follows. -/
def spanSign : List Char → Bool × List Char
  | '-' :: r => (true, r)
  | '+' :: r => (false, r)
  | r => (false, r)

/-- The exponent that ends a number: nothing, or `e` with an optional sign and digits. -/
def readExponent : List Char → Option Int
  | [] => some 0
  | e :: r =>
    if e = 'e' ∨ e = 'E' then
      let (negative, r) := spanSign r
      match spanDigits r with
      | ([], _) => none
      | (ds, []) => some (if negative then -(ofDigits ds : Int) else ofDigits ds)
      | _ => none
    else none

/-- The optional fraction: its digits, and what follows. -/
def spanFraction : List Char → List Nat × List Char
  | '.' :: r => spanDigits r
  | r => ([], r)

/-- An unsigned number: digits before or after an optional point, and an optional exponent. -/
def readUnsigned (negative : Bool) (cs : List Char) : Option Decimal :=
  let (whole, r) := spanDigits cs
  let (fraction, r) := spanFraction r
  if whole = [] ∧ fraction = [] then none
  else (readExponent r).map fun e =>
    ⟨negative, ofDigits (whole ++ fraction), e - fraction.length⟩

/-- A number in decimal notation. -/
def read (cs : List Char) : Option Decimal :=
  readUnsigned (spanSign cs).1 (spanSign cs).2

/-- A double from decimal notation, or from `inf`, `infinity` or `nan` in any case. -/
def readFloat (cs : List Char) : Option Float :=
  match read cs with
  | some d => some d.toFloat
  | none =>
    let (negative, r) := spanSign cs
    let word := String.ofList (r.map Char.toLower)
    if word = "inf" ∨ word = "infinity" then some (if negative then -infinity else infinity)
    else if word = "nan" then some notANumber
    else none

end Decimal

/-! ### From a double to an integer -/

/-- The integer that a double is; `none` for a fraction, for infinity and for no number. The
bits of a double give a significand `m` and a power `2 ^ (e - 1075)` that it is multiplied by. -/
def integerOfFloat? (x : Float) : Option Int :=
  let bits := x.toBits.toNat
  let negative := bits / 2 ^ (63 : Nat) = 1
  let e := bits / 2 ^ (52 : Nat) % 2 ^ (11 : Nat)
  let m := bits % 2 ^ (52 : Nat) + (if e = 0 then 0 else 2 ^ (52 : Nat))
  let e := if e = 0 then 1 else e
  let whole : Option Nat :=
    if e = 2047 then none
    else if e ≥ 1075 then some (m * 2 ^ (e - 1075))
    else if m % 2 ^ (1075 - e) = 0 then some (m / 2 ^ (1075 - e))
    else none
  whole.map fun n => if negative then -(n : Int) else n

example : integerOfFloat? 3.0 = some 3 := by decide
example : integerOfFloat? (-1e15) = some (-1000000000000000) := by decide
example : integerOfFloat? 0.5 = none := by decide
example : Decimal.read "-1.50e+3".toList = some ⟨true, 150, 1⟩ := by decide

end QuizHall
