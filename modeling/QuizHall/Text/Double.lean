import QuizHall.Text.Decimal

/-!
# Doubles as exact numbers

A finite double is a natural number times a power of two. Seen like this it can be cut to an
integer, rounded to a number of places or of digits, and written with the fewest digits that read
back as the same double, all in exact arithmetic.

## Main definitions

* `Double`, `Double.ofFloat`: the exact view.
* `Double.floor?`: the integer at or below a double.
* `roundQuotient`: a quotient rounded to the nearest natural number.
* `Magnitude.places`, `Magnitude.significant`: rounded to places, and to digits.
* `Magnitude.shortest`: the fewest digits that read back.
-/

namespace QuizHall

-- Powers are those of the core library, whatever else is imported.
attribute [local instance (2000)] instPowNat

/-- The number `m · 2 ^ q`. -/
structure Magnitude where
  /-- The significand. -/
  m : Nat
  /-- The power of two that it is multiplied by. -/
  q : Int
  deriving DecidableEq

/-- A double without its encoding. -/
inductive Double where
  /-- A finite number with its sign, which zero has too. -/
  | finite (negative : Bool) (size : Magnitude)
  /-- Beyond all finite numbers. -/
  | infinite (negative : Bool)
  /-- No number. -/
  | notANumber
  deriving DecidableEq

/-- The exact view of a double: one bit for the sign, eleven for the exponent, and the rest for
the significand, whose leading bit is not stored unless the exponent is zero. -/
def Double.ofFloat (x : Float) : Double :=
  let bits := x.toBits.toNat
  let negative : Bool := bits / 2 ^ (63 : Nat) = 1
  let exponent : Nat := bits / 2 ^ (52 : Nat) % 2 ^ (11 : Nat)
  let fraction : Nat := bits % 2 ^ (52 : Nat)
  if exponent = 2047 then
    if fraction = 0 then infinite negative else notANumber
  else if exponent = 0 then finite negative ⟨fraction, -1074⟩
  else finite negative ⟨fraction + 2 ^ (52 : Nat), (exponent : Int) - 1075⟩

/-- The greatest integer that is not above a double, if there is one. -/
def Double.floor? : Double → Option Int
  | finite negative size =>
    let n : Int := size.m
    some ((if negative then -n else n) * 2 ^ size.q.toNat / 2 ^ (-size.q).toNat)
  | infinite _ | notANumber => none

/-- A quotient rounded to the nearest natural number, to an even one on a tie. -/
def roundQuotient (num den : Nat) : Nat :=
  let rest := num % den
  let down := num / den
  if 2 * rest < den then down
  else if 2 * rest > den then down + 1
  else down + down % 2

namespace Magnitude

/-- The numerator of `m · 2 ^ q` as a fraction. -/
def num (v : Magnitude) : Nat := v.m * 2 ^ v.q.toNat

/-- The denominator of `m · 2 ^ q` as a fraction. -/
def den (v : Magnitude) : Nat := 2 ^ (-v.q).toNat

/-- What is left without the part behind the point. -/
def truncate (v : Magnitude) : Nat := v.num / v.den

/-- The number of units of `10 ^ -k` that is nearest to a number. -/
def places (v : Magnitude) (k : Nat) : Nat := roundQuotient (v.num * 10 ^ k) v.den

/-- The power of ten at or below a number; a number of `a` digits divided by one of `b` digits lies
between `10 ^ (a - b - 1)` and `10 ^ (a - b + 1)`. -/
def order (v : Magnitude) : Int :=
  let e : Int := (Integer.digits v.num).length - (Integer.digits v.den).length
  if v.den * 10 ^ e.toNat ≤ v.num * 10 ^ (-e).toNat then e else e - 1

/-- The fraction that counts the units of `10 ^ s` in a number. -/
def inUnits (v : Magnitude) (s : Int) : Nat × Nat :=
  (v.num * 10 ^ (-s).toNat, v.den * 10 ^ s.toNat)

/-- The `k + 1` leading digits of a number, rounded, and the power of ten of the first one. Zero has
only zeros. -/
def significant (v : Magnitude) (k : Nat) : Nat × Int :=
  if v.m = 0 then (0, 0)
  else
    let e := v.order
    let (num, den) := v.inUnits (e - k)
    let d := roundQuotient num den
    if d = 10 ^ (k + 1) then (10 ^ k, e + 1) else (d, e)

/-! ### The fewest digits -/

/-- Whether the nearest double to `d · 10 ^ s` is a given one. Around `m · 2 ^ q` these numbers
reach up to half a unit of the last place, but down to a quarter only where the doubles below lie
twice as close; the ends belong to it if `m` is even. All is counted in quarters of a unit. -/
def isNearest (v : Magnitude) (d : Nat) (s : Int) : Bool :=
  let quarters : Magnitude := ⟨1, v.q - 2⟩
  let x := d * 10 ^ s.toNat * quarters.den
  let unit := quarters.num * 10 ^ (-s).toNat
  let low := 4 * v.m - (if v.m = 2 ^ (52 : Nat) ∧ v.q ≠ -1074 then 1 else 2)
  let high := 4 * v.m + 2
  if v.m % 2 = 0 then decide (low * unit ≤ x ∧ x ≤ high * unit)
  else decide (low * unit < x ∧ x < high * unit)

/-- The number of `k + 1` digits that reads back and is nearest, if one reads back. -/
def grid? (v : Magnitude) (k : Nat) : Option (Nat × Int) :=
  let e := v.order
  let s := e - k
  let (num, den) := v.inUnits s
  let down := num / den
  let nearest := roundQuotient num den
  let other := if nearest = down then down + 1 else down
  let hit := [nearest, other].find? fun d => v.isNearest d s
  hit.map fun d => (d, s)

/-- Looks for digits that read back among those of `k + 1` digits, then among longer ones. -/
def searchGrids (v : Magnitude) (k : Nat) : Nat → Nat × Int
  | 0 => v.significant k
  | n + 1 => (v.grid? k).getD (searchGrids v (k + 1) n)

/-- Takes the zeros off the end of a number, at most a given number of them. -/
def dropZeros (d : Nat) (s : Int) : Nat → Nat × Int
  | 0 => (d, s)
  | n + 1 => if d % 10 = 0 then dropZeros (d / 10) (s + 1) n else (d, s)

/-- The fewest digits that read back as a number, and the power of ten of the last one. Seventeen
digits are enough for every double. -/
def shortest (v : Magnitude) : Nat × Int :=
  if v.m = 0 then (0, 0)
  else
    let (d, s) := v.searchGrids 0 17
    dropZeros d s 17

end Magnitude

example : (Magnitude.mk 0x1999999999999a (-56)).shortest = (1, -1) := by decide +kernel
example : (Magnitude.mk 1 (-1074)).shortest = (5, -324) := by decide +kernel
example : (Magnitude.mk (2 ^ (52 : Nat)) 1).significant 3 = (9007, 15) := by decide +kernel
example : (Magnitude.mk 5 (-1)).places 0 = 2 := by decide

end QuizHall
