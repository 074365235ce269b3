import QuizHall.Text.Integer

/-!
# Places in a template

A template is text with places in it. A place begins with a percent sign. Behind it stand, in this
order and each of them optional, the name of a field in parentheses, flags, a width, a precision
behind a point, and a letter for a size that means nothing; the conversion ends it. A width or a
precision is a number, or a star that leaves it to the next argument. Two percent signs are one
that is meant.

## Main definitions

* `Placeholder`: a place.
* `Placeholder.read`: the place that a text begins with.
* `Piece`, `pieces`: a template cut into text and places.
-/

namespace QuizHall.Template

/-- A width or a precision. -/
inductive Extent where
  /-- Nothing is said. -/
  | unsaid
  /-- It is given. -/
  | given (n : Nat)
  /-- The next argument gives it. -/
  | taken
  deriving DecidableEq

/-- The name of a field. -/
inductive FieldName where
  /-- No field is named. -/
  | unsaid
  /-- The parenthesis is never closed. -/
  | unclosed
  /-- The name. -/
  | named (name : String)
  deriving DecidableEq

/-- The flags of a place. -/
structure Flags where
  /-- What fills the place is put to its left end. -/
  left : Bool := false
  /-- A number that is not negative gets a plus sign. -/
  plus : Bool := false
  /-- A number that is not negative gets a blank instead of a sign. -/
  blank : Bool := false
  /-- An integer gets the mark of its base, a double its point. -/
  alternate : Bool := false
  /-- A number is filled up with zeros. -/
  zero : Bool := false
  deriving DecidableEq

/-- A place in a template. -/
structure Placeholder where
  /-- The field that the place is filled from. -/
  field : FieldName := .unsaid
  /-- The flags. -/
  flags : Flags := {}
  /-- The least number of characters. -/
  width : Extent := .unsaid
  /-- The number of digits, or the greatest number of characters. -/
  precision : Extent := .unsaid
  /-- The character that ends the place; none, if the template ends first. -/
  conversion : Option Char
  deriving DecidableEq

namespace Placeholder

/-! ### The parts of a place -/

/-- Reads up to the parenthesis that closes one opened before, with `depth` more of them to be
closed in between. -/
def readName (depth : Nat) (seen : List Char) : List Char → FieldName × List Char
  | [] => (.unclosed, [])
  | c :: r =>
    if c = ')' then
      if depth = 0 then (.named (String.ofList seen.reverse), r)
      else readName (depth - 1) (c :: seen) r
    else readName (if c = '(' then depth + 1 else depth) (c :: seen) r

/-- Reads the name of a field. -/
def readField : List Char → FieldName × List Char
  | '(' :: r => readName 0 [] r
  | r => (.unsaid, r)

/-- The flags with one more, if a character is one. -/
def addFlag? (flags : Flags) (c : Char) : Option Flags :=
  if c = '-' then some { flags with left := true }
  else if c = '+' then some { flags with plus := true }
  else if c = ' ' then some { flags with blank := true }
  else if c = '#' then some { flags with alternate := true }
  else if c = '0' then some { flags with zero := true }
  else none

/-- Reads flags. -/
def readFlags (flags : Flags) : List Char → Flags × List Char
  | [] => (flags, [])
  | c :: r =>
    match addFlag? flags c with
    | some flags => readFlags flags r
    | none => (flags, c :: r)

/-- Reads digits behind those whose value is `n`. -/
def readDigits (n : Nat) : List Char → Nat × List Char
  | [] => (n, [])
  | c :: r =>
    match Integer.digit? c with
    | some d => readDigits (n * 10 + d) r
    | none => (n, c :: r)

/-- Reads a number or a star; without one, the extent is `absent`. -/
def readExtent (absent : Extent) : List Char → Extent × List Char
  | '*' :: r => (.taken, r)
  | [] => (absent, [])
  | c :: r =>
    match Integer.digit? c with
    | some d => (.given (readDigits d r).1, (readDigits d r).2)
    | none => (absent, c :: r)

/-- Reads a precision; a point alone is a precision of zero. -/
def readPrecision : List Char → Extent × List Char
  | '.' :: r => readExtent (.given 0) r
  | r => (.unsaid, r)

/-- Drops the letter for a size. -/
def dropSize : List Char → List Char
  | c :: r => if c = 'h' ∨ c = 'l' ∨ c = 'L' then r else c :: r
  | [] => []

/-- The place that a text begins with, behind its percent sign, and what follows the place. -/
def read (cs : List Char) : Placeholder × List Char :=
  let (field, r) := readField cs
  let (flags, r) := readFlags {} r
  let (width, r) := readExtent .unsaid r
  let (precision, r) := readPrecision r
  let r := dropSize r
  ({ field, flags, width, precision, conversion := r.head? }, r.tail)

end Placeholder

/-! ### Templates -/

/-- A piece of a template. -/
inductive Piece where
  /-- A character that stands for itself. -/
  | char (c : Char)
  /-- A place, and the index of the character that ends it. -/
  | place (p : Placeholder) (last : Nat)

/-- The pieces of a template, the first of which has the index `i`. -/
def pieces (i : Nat) : List Char → List Piece
  | [] => []
  | c :: r =>
    if c = '%' then
      if r.head? = some '%' then .char '%' :: pieces (i + 2) r.tail
      else
        let (p, rest) := Placeholder.read r
        let size := r.length - rest.length
        .place p (i + size) :: pieces (i + size + 1) (r.drop size)
    else .char c :: pieces (i + 1) r
  termination_by cs => cs.length
  decreasing_by all_goals simp only [List.length_cons, List.length_tail, List.length_drop]; omega

end QuizHall.Template
