import QuizHall.Text.Double

/-!
# Layout of numbers

How a number that is worked out already stands in a text: its sign, the mark of its base, and its
digits, which are kept apart so that zeros can be filled in between.

## Main definitions

* `Field`: the parts of a filled place.
* `Field.integer`: an integer in a base, with a least number of digits.
* `Field.fixed`, `Field.scientific`, `Field.general`: a double with a number of places or digits.
* `shortestChars`: a double with the fewest digits that read back.
-/

namespace QuizHall.Template

/-- What fills a place, in its parts. -/
structure Field where
  /-- Whether a minus sign belongs in front. -/
  negative : Bool := false
  /-- The mark of a base. -/
  mark : List Char := []
  /-- The digits, or the text of something that is no number. -/
  body : List Char
  /-- Whether it is a number, and so may have a sign and leading zeros. -/
  isNumber : Bool := true

/-- Digits with a point in front of the last `k` of them. With no digit behind it the point is left
out, unless it is wanted. -/
def pointed (point : Bool) (k : Nat) (ds : List Char) : List Char :=
  let ds := List.replicate (k + 1 - ds.length) '0' ++ ds
  let whole := ds.take (ds.length - k)
  if k = 0 then whole ++ (if point then ['.'] else [])
  else whole ++ '.' :: ds.drop (ds.length - k)

/-- The exponent of a number, of at least two digits. -/
def exponentChars (e : Int) : List Char :=
  let ds := Integer.digits e.natAbs
  'e' :: (if e < 0 then '-' else '+') :: (List.replicate (2 - ds.length) '0' ++ ds)

/-! ### The shortest layout -/

/-- The shortest layout of a number: with an exponent from `10 ^ 16` on and below `10 ^ -4`, else
with a point and at least one digit on both sides of it. -/
def shortestMagnitude (v : Magnitude) : List Char :=
  let (d, s) := v.shortest
  let ds := Integer.digits d
  let e := s + ds.length - 1
  if -4 ≤ e ∧ e < 16 then
    if s ≥ 0 then ds ++ List.replicate s.toNat '0' ++ ['.', '0']
    else pointed false (-s).toNat ds
  else pointed false (ds.length - 1) ds ++ exponentChars e

/-- The layout of a double with the fewest digits that read back. -/
def shortestChars (x : Float) : List Char :=
  match Double.ofFloat x with
  | .finite negative v => (if negative then ['-'] else []) ++ shortestMagnitude v
  | .infinite negative => (if negative then ['-'] else []) ++ ['i', 'n', 'f']
  | .notANumber => ['n', 'a', 'n']

/-! ### Set layouts -/

/-- The text of a layout in capital letters. -/
def upper (cs : List Char) : List Char := cs.map Char.toUpper

namespace Field

/-- An integer in a base, with a least number of digits and the mark of the base. -/
def integer (base : Nat) (mark : List Char) (least : Nat) (n : Int) : Field :=
  let ds := Nat.toDigits base n.natAbs
  { negative := n < 0, mark, body := List.replicate (least - ds.length) '0' ++ ds }

/-- A double in a layout of its magnitude. -/
def ofDouble (layout : Magnitude → List Char) (x : Float) : Field :=
  match Double.ofFloat x with
  | .finite negative v => { negative, body := layout v }
  | .infinite negative => { negative, body := ['i', 'n', 'f'] }
  | .notANumber => { body := ['n', 'a', 'n'] }

/-- A number of places behind the point. -/
def fixed (point : Bool) (k : Nat) (v : Magnitude) : List Char :=
  pointed point k (Integer.digits (v.places k))

/-- One digit in front of the point, a number of places behind it, and an exponent. -/
def scientific (point : Bool) (k : Nat) (v : Magnitude) : List Char :=
  let (d, e) := v.significant k
  pointed point k (Integer.digits d) ++ exponentChars e

/-- A fraction without the zeros at its end, and without a point that would end it. -/
def trimFraction (cs : List Char) : List Char :=
  if cs.contains '.' then
    match cs.reverse.dropWhile (· = '0') with
    | '.' :: r => r.reverse
    | r => r.reverse
  else cs

/-- A number of digits, in the fixed or in the scientific layout, by the size of the number: the
fixed one is taken from `10 ^ -4` on, if the digits reach to the point. Zeros at the end of the
fraction are left out, unless the point is wanted. -/
def general (point : Bool) (k : Nat) (v : Magnitude) : List Char :=
  let p := if k = 0 then 1 else k
  let trim := if point then id else trimFraction
  let (d, e) := v.significant (p - 1)
  if -4 ≤ e ∧ e < p then trim (fixed point (p - 1 - e).toNat v)
  else trim (pointed point (p - 1) (Integer.digits d)) ++ exponentChars e

end Field

example : String.ofList (shortestChars 0.1) = "0.1" := by decide +kernel
example : String.ofList (shortestChars (-1e16)) = "-1e+16" := by decide +kernel

end QuizHall.Template
