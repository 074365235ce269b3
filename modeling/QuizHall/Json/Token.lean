import QuizHall.Json.Printer

/-!
# JSON tokens

The characters of a JSON text cut into tokens, in one pass from left to right. Between tokens
blanks are dropped; a string is read with its escapes resolved; every other run of characters up
to the next blank, quotation mark or punctuation has to be a number or one of the three words.

The reading is strict: no sign but `-` in front of a number, no leading zero, digits on both
sides of a point, no control character inside a string, and a surrogate escape only as a pair.
The digits in front of the point of a number are limited, so that reading it stays cheap. Three
more words stand for the doubles that digits cannot write.

## Main definitions

* `Json.Token`: punctuation, a string, or another scalar.
* `Json.plainInteger`: the integer that a text is, in the notation of JSON.
* `Json.atom?`: the number or word that a run of characters is.
* `Json.tokens?`: the tokens of a text.
-/

namespace QuizHall.Json

/-- The pieces of a JSON text. -/
inductive Token where
  /-- The bracket that opens an array. -/
  | openList
  /-- The bracket that closes an array. -/
  | closeList
  /-- The brace that opens an object. -/
  | openObject
  /-- The brace that closes an object. -/
  | closeObject
  /-- The comma between two items or fields. -/
  | comma
  /-- The colon between the name and the value of a field. -/
  | colon
  /-- A string. -/
  | text (s : String)
  /-- A number or one of `true`, `false` and `null`. -/
  | atom (v : Value)

/-! ### Numbers and words -/

/-- Whether a text consists of ASCII digits, at least one, without a needless leading zero. -/
def isPlainNat : List Char → Bool
  | [] => false
  | ['0'] => true
  | '0' :: _ => false
  | cs => cs.all fun c => (Integer.digit? c).isSome

/-- A text without the minus sign at its head. -/
def dropMinus : List Char → List Char
  | '-' :: r => r
  | r => r

/-- Whether a fraction has a digit behind its point. -/
def isFraction : List Char → Bool
  | '.' :: c :: _ => (Integer.digit? c).isSome
  | '.' :: [] => false
  | _ => true

/-- The digits that a number begins with, behind its minus sign. -/
def wholeDigits (cs : List Char) : List Char :=
  (dropMinus cs).takeWhile fun c => (Integer.digit? c).isSome

/-- How many characters a number may have in front of its point, its sign included. -/
def maxWidth : Nat := 4300

/-- Whether a number has more characters in front of its point than `width`. A number that begins
with a zero has no more than that zero. -/
def isOverlong (width : Nat) (cs : List Char) : Bool :=
  let whole := wholeDigits cs
  whole.head? != some '0' &&
    decide (width < whole.length + (if cs.head? = some '-' then 1 else 0))

/-- Why a text is no integer in the notation of JSON. -/
inductive NotInteger where
  /-- It has too many digits. -/
  | overlong
  /-- It is something else. -/
  | malformed
  deriving DecidableEq

/-- The integer that a text is: an optional minus sign and digits without a needless zero. Too
many digits are refused whatever stands behind them. -/
def plainInteger (width : Nat) (cs : List Char) : Except NotInteger Int :=
  if isOverlong width cs then .error .overlong
  else if isPlainNat (dropMinus cs) then
    match Integer.read cs with
    | some n => .ok n
    | none => .error .malformed
  else .error .malformed

/-- The number that a text is: an integer if it has neither point nor exponent. -/
def number? (width : Nat) (cs : List Char) : Option Value :=
  match plainInteger width cs with
  | .ok n => some (.int n)
  | .error .overlong => none
  | .error .malformed =>
    let whole := wholeDigits cs
    if isPlainNat whole && isFraction ((dropMinus cs).drop whole.length) then
      (Decimal.read cs).map fun d => .float d.toFloat
    else none

/-- The number or word that a run of characters is. -/
def atom? (width : Nat) (cs : List Char) : Option Value :=
  if cs = ['t', 'r', 'u', 'e'] then some (.flag true)
  else if cs = ['f', 'a', 'l', 's', 'e'] then some (.flag false)
  else if cs = ['n', 'u', 'l', 'l'] then some .null
  else if cs = ['N', 'a', 'N'] then some (.float Decimal.notANumber)
  else if cs = ['I', 'n', 'f', 'i', 'n', 'i', 't', 'y'] then some (.float Decimal.infinity)
  else if cs = ['-', 'I', 'n', 'f', 'i', 'n', 'i', 't', 'y'] then
    some (.float (-Decimal.infinity))
  else number? width cs

/-! ### The pass over the characters -/

/-- What the pass is in the middle of. Characters seen so far are kept last first. -/
inductive Mode where
  /-- Between two tokens. -/
  | gap
  /-- In a number or word. -/
  | bare (seen : List Char)
  /-- In a string. -/
  | text (seen : List Char)
  /-- In a string, behind a backslash. -/
  | escape (seen : List Char)
  /-- In a string, with `left` hexadecimal digits of an escape to come; `high` is the first half
  of a surrogate pair whose second half is being read. -/
  | code (seen : List Char) (high : Option Nat) (n left : Nat)
  /-- In a string, behind the first half of a surrogate pair. -/
  | half (seen : List Char) (high : Nat)
  /-- In a string, behind the first half of a surrogate pair and a backslash. -/
  | halfEscape (seen : List Char) (high : Nat)

/-- The punctuation that a character is. -/
def punctuation? (c : Char) : Option Token :=
  if c = '[' then some .openList
  else if c = ']' then some .closeList
  else if c = '\x7b' then some .openObject
  else if c = '\x7d' then some .closeObject
  else if c = ',' then some .comma
  else if c = ':' then some .colon
  else none

/-- The blanks that may stand between tokens. -/
def isGap (c : Char) : Bool := c = ' ' || c = '\t' || c = '\n' || c = '\x0d'

/-- The character that a one-letter escape stands for. -/
def unescape? (c : Char) : Option Char :=
  if c = quote ∨ c = '\\' ∨ c = '/' then some c
  else if c = 'b' then some '\x08'
  else if c = 'f' then some '\x0c'
  else if c = 'n' then some '\n'
  else if c = 'r' then some '\x0d'
  else if c = 't' then some '\t'
  else none

/-- The value of a hexadecimal digit of either case. -/
def hexValue? (c : Char) : Option Nat :=
  let n := c.toNat
  if 48 ≤ n ∧ n ≤ 57 then some (n - 48)
  else if 97 ≤ n ∧ n ≤ 102 then some (n - 87)
  else if 65 ≤ n ∧ n ≤ 70 then some (n - 55)
  else none

/-- The end of a `\u` escape of code `n`, behind the first half `high` of a pair if there is
one. A second half stands behind a first half and nowhere else. -/
def endCode (seen : List Char) (high : Option Nat) (n : Nat) : Option Mode :=
  match high with
  | none =>
    if 0xD800 ≤ n ∧ n ≤ 0xDBFF then some (.half seen n)
    else if 0xDC00 ≤ n ∧ n ≤ 0xDFFF then none
    else some (.text (Char.ofNat n :: seen))
  | some h =>
    if 0xDC00 ≤ n ∧ n ≤ 0xDFFF then
      some (.text (Char.ofNat (0x10000 + (h - 0xD800) * 0x400 + (n - 0xDC00)) :: seen))
    else none

/-- One character between two tokens. -/
def stepGap (c : Char) : List Token × Mode :=
  match punctuation? c with
  | some t => ([t], .gap)
  | none =>
    if isGap c then ([], .gap)
    else if c = quote then ([], .text [])
    else ([], .bare [c])

/-- One character: the tokens that it ends, and what the pass is in afterwards. -/
def step (width : Nat) : Mode → Char → Option (List Token × Mode)
  | .gap, c => some (stepGap c)
  | .bare seen, c =>
    if (punctuation? c).isSome || isGap c || c = quote then
      (atom? width seen.reverse).map fun v => (.atom v :: (stepGap c).1, (stepGap c).2)
    else some ([], .bare (c :: seen))
  | .text seen, c =>
    if c = quote then some ([.text (String.ofList seen.reverse)], .gap)
    else if c = '\\' then some ([], .escape seen)
    else if c.toNat < 32 then none
    else some ([], .text (c :: seen))
  | .escape seen, c =>
    if c = 'u' then some ([], .code seen none 0 4)
    else (unescape? c).map fun x => ([], .text (x :: seen))
  | .code seen high n left, c =>
    match hexValue? c with
    | none => none
    | some d =>
      if left ≤ 1 then (endCode seen high (n * 16 + d)).map fun m => ([], m)
      else some ([], .code seen high (n * 16 + d) (left - 1))
  | .half seen high, c => if c = '\\' then some ([], .halfEscape seen high) else none
  | .halfEscape seen high, c => if c = 'u' then some ([], .code seen (some high) 0 4) else none

/-- The tokens of a text, behind the tokens `done` (last first) and in the middle of `m`. -/
def scan (width : Nat) (done : List Token) (m : Mode) : List Char → Option (List Token)
  | [] =>
    match m with
    | .gap => some done.reverse
    | .bare seen =>
      match atom? width seen.reverse with
      | some v => some (.atom v :: done).reverse
      | none => none
    | _ => none
  | c :: r =>
    match step width m c with
    | some (ts, m') => scan width (ts.reverse ++ done) m' r
    | none => none

/-- The tokens of a text, if it can be cut into tokens. -/
def tokens? (width : Nat) (cs : List Char) : Option (List Token) := scan width [] .gap cs

end QuizHall.Json
