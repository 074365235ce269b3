import QuizHall.Template.Placeholder
import QuizHall.Template.Shown

/-!
# Filling a template

The places of a template are filled from the left to the right, each by the next argument. A single
argument that is a record with fields can be taken apart: a place that names a field is filled from
that field, and arguments may then be left over.

## Main definitions

* `Mismatch`: what can be wrong between a template and its arguments.
* `Supply`: the arguments that are left.
* `Field.ofValue`: what fills a place.
* `fill`: a template with its places filled.
-/

namespace QuizHall.Template

-- Powers are those of the core library, whatever else is imported.
attribute [local instance (2000)] instPowNat

open Json (Value)

/-! ### What can be wrong -/

/-- What is wrong between a template and its arguments. -/
inductive Mismatch where
  /-- There are more places than arguments. -/
  | tooFew
  /-- There are more arguments than places. -/
  | tooMany
  /-- A field is named, but the argument is no record. -/
  | noRecord
  /-- The name of a field is not closed. -/
  | unclosedName
  /-- The record has no field of the name. -/
  | noField (name : String)
  /-- The argument for a width or a precision is no integer. -/
  | extentKind
  /-- The argument for a width is too large. -/
  | hugeWidth
  /-- The argument for a precision is too large. -/
  | hugePrecision
  /-- The width is too large. -/
  | wideWidth
  /-- The precision is too large. -/
  | widePrecision
  /-- The template ends inside of a place. -/
  | unfinished
  /-- There is no such conversion. -/
  | unknown (conversion : Char) (index : Nat)
  /-- A conversion wants a number, and the argument is something else. -/
  | notReal (conversion : Char) (kind : String)
  /-- A conversion wants an integer, and the argument is something else. -/
  | notInteger (conversion : Char) (kind : String)
  /-- A conversion to a double has something else than a number. -/
  | notNumber (kind : String)
  /-- An integer lies beyond the range of doubles. -/
  | beyondDoubles
  /-- Infinity is no integer. -/
  | infinite
  /-- What is no number is no integer. -/
  | notANumber
  /-- An integer is no code point. -/
  | noCodePoint
  /-- A conversion to a character has neither an integer nor a character. -/
  | notCharacter
  deriving DecidableEq

/-- How callers tell mismatches apart. -/
inductive MismatchKind where
  /-- The arguments are of the wrong kind or number. -/
  | arguments
  /-- A value, or the template itself, is of no use. -/
  | value
  /-- A field is not there. -/
  | field
  /-- A number is too large. -/
  | range
  deriving DecidableEq

namespace Mismatch

/-- The kind of a mismatch. -/
def kind : Mismatch → MismatchKind
  | tooFew | tooMany | noRecord | extentKind | notReal .. | notInteger .. | notNumber _
  | notCharacter => .arguments
  | unclosedName | wideWidth | widePrecision | unfinished | unknown .. | notANumber => .value
  | noField _ => .field
  | hugeWidth | hugePrecision | beyondDoubles | infinite | noCodePoint => .range

/-- A character, if a message can show it. -/
def shownConversion (c : Char) : Char := if 31 ≤ c.toNat ∧ c.toNat < 127 then c else '?'

/-- The wording of a mismatch. -/
def message : Mismatch → String
  | tooFew => "not enough arguments for format string"
  | tooMany => "not all arguments converted during string formatting"
  | noRecord => "format requires a mapping"
  | unclosedName => "incomplete format key"
  | noField name => String.ofList (Literal.chars Literal.shows name.toList)
  | extentKind => "* wants int"
  | hugeWidth => "Python int too large to convert to C ssize_t"
  | hugePrecision => "Python int too large to convert to C int"
  | wideWidth => "width too big"
  | widePrecision => "precision too big"
  | unfinished => "incomplete format"
  | unknown c index => "unsupported format character '" ++ (shownConversion c).toString ++
      "' (0x" ++ String.ofList (Nat.toDigits 16 c.toNat) ++ ") at index " ++ Integer.natText index
  | notReal c kind => "%" ++ c.toString ++ " format: a real number is required, not " ++ kind
  | notInteger c kind => "%" ++ c.toString ++ " format: an integer is required, not " ++ kind
  | notNumber kind => "must be real number, not " ++ kind
  | beyondDoubles => "int too large to convert to float"
  | infinite => "cannot convert float infinity to integer"
  | notANumber => "cannot convert float NaN to integer"
  | noCodePoint => "%c arg not in range(0x110000)"
  | notCharacter => "%c requires int or char"

end Mismatch

/-! ### Arguments -/

/-- The arguments that are left. -/
structure Supply where
  /-- What the next places take, in order. -/
  rest : List Value
  /-- The record whose fields can be named, if there is one. -/
  record? : Option (List (String × Value)) := none

namespace Supply

/-- Some arguments; a record with fields that stands alone can be taken apart. -/
def ofArguments : List Value → Supply
  | [.object (f :: fs)] => { rest := [.object (f :: fs)], record? := some (f :: fs) }
  | args => { rest := args }

/-- The next argument. -/
def next (s : Supply) : Except Mismatch (Value × Supply) :=
  match s.rest with
  | v :: rest => .ok (v, { s with rest })
  | [] => .error .tooFew

/-- Turns to a field of the record: it is the only argument from then on. -/
def turnTo (s : Supply) : FieldName → Except Mismatch Supply
  | .unsaid => .ok s
  | name =>
    match s.record? with
    | none => .error .noRecord
    | some fields =>
      match name with
      | .named n =>
        match Json.field? n fields with
        | some v => .ok { s with rest := [v] }
        | none => .error (.noField n)
      | _ => .error .unclosedName

/-- Nothing may be left of a record behind a place. -/
def checkRecord (s : Supply) : Except Mismatch Unit :=
  if s.record?.isSome && !s.rest.isEmpty then .error .tooMany else .ok ()

/-- Nothing may be left of arguments that are no record behind a template. -/
def checkEnd (s : Supply) : Except Mismatch Unit :=
  if s.record?.isNone && !s.rest.isEmpty then .error .tooMany else .ok ()

end Supply

/-! ### Widths and precisions -/

/-- The greatest width. -/
def maxWidth : Nat := 2 ^ (63 : Nat) - 1

/-- The greatest precision. -/
def maxPrecision : Nat := 2 ^ (31 : Nat) - 1

/-- The integer that an argument gives for a width or a precision. -/
def extentInteger (v : Value) : Except Mismatch Int :=
  match v with
  | .int n => .ok n
  | .flag b => .ok (if b then 1 else 0)
  | _ => .error .extentKind

/-- The value of a width or a precision, if one is wanted. -/
def Extent.value (s : Supply) (bound : Nat) (wide huge : Mismatch) :
    Extent → Except Mismatch (Option Int × Supply)
  | .unsaid => .ok (none, s)
  | .given n => if n ≤ bound then .ok (some n, s) else .error wide
  | .taken => do
    let (v, s) ← s.next
    let n ← extentInteger v
    if -(bound : Int) - 1 ≤ n ∧ n ≤ bound then .ok (some n, s) else .error huge

/-! ### Conversions -/

/-- The integer that a number is cut to. -/
def truncated (x : Float) : Except Mismatch Int :=
  match Double.ofFloat x with
  | .finite negative v => .ok (if negative then -(v.truncate : Int) else v.truncate)
  | .infinite _ => .error .infinite
  | .notANumber => .error .notANumber

/-- The integer of an argument for a decimal conversion; a double is cut to one. -/
def decimalInteger (c : Char) : Value → Except Mismatch Int
  | .int n => .ok n
  | .flag b => .ok (if b then 1 else 0)
  | .float x => truncated x
  | v => .error (.notReal c (kindWord v))

/-- The integer of an argument for a conversion to another base. -/
def exactInteger (c : Char) : Value → Except Mismatch Int
  | .int n => .ok n
  | .flag b => .ok (if b then 1 else 0)
  | v => .error (.notInteger c (kindWord v))

/-- The double of an argument. -/
def double : Value → Except Mismatch Float
  | .int n =>
    let x := Decimal.floatOfInt n
    if x.isFinite then .ok x else .error .beyondDoubles
  | .flag b => .ok (if b then 1.0 else 0.0)
  | .float x => .ok x
  | v => .error (.notNumber (kindWord v))

/-- The character of an argument. -/
def character (v : Value) : Except Mismatch Char :=
  let ofCode (n : Int) : Except Mismatch Char :=
    if 0 ≤ n ∧ n < 0x110000 then .ok (Char.ofNat n.toNat) else .error .noCodePoint
  match v with
  | .text s =>
    match s.toList with
    | [c] => .ok c
    | _ => .error .notCharacter
  | .int n => ofCode n
  | .flag b => ofCode (if b then 1 else 0)
  | _ => .error .notCharacter

namespace Field

/-- A text, cut to a greatest number of characters. -/
def ofText (limit : Option Nat) (cs : List Char) : Field :=
  { body := match limit with
      | some n => cs.take n
      | none => cs
    isNumber := false }

/-- A field in capital letters. -/
def capital (f : Field) : Field := { f with mark := upper f.mark, body := upper f.body }

/-- What fills a place that is ended by a conversion. -/
def ofValue (c : Char) (index : Nat) (alternate : Bool) (precision : Option Nat) (v : Value) :
    Except Mismatch Field :=
  let least := precision.getD 0
  let digits := precision.getD 6
  let marked (mark : List Char) : List Char := if alternate then mark else []
  match c with
  | 's' => .ok (ofText precision (plainChars v))
  | 'r' => .ok (ofText precision (literalChars Literal.shows v))
  | 'a' => .ok (ofText precision (literalChars Literal.showsAscii v))
  | 'd' | 'i' | 'u' => (decimalInteger c v).map (integer 10 [] least)
  | 'o' => (exactInteger c v).map (integer 8 (marked ['0', 'o']) least)
  | 'x' => (exactInteger c v).map (integer 16 (marked ['0', 'x']) least)
  | 'X' => (exactInteger c v).map fun n => (integer 16 (marked ['0', 'x']) least n).capital
  | 'e' => (double v).map (ofDouble (scientific alternate digits))
  | 'E' => (double v).map fun x => (ofDouble (scientific alternate digits) x).capital
  | 'f' => (double v).map (ofDouble (fixed alternate digits))
  | 'F' => (double v).map fun x => (ofDouble (fixed alternate digits) x).capital
  | 'g' => (double v).map (ofDouble (general alternate digits))
  | 'G' => (double v).map fun x => (ofDouble (general alternate digits) x).capital
  | 'c' => (character v).map fun x => ofText none [x]
  | _ => .error (.unknown c index)

/-- The sign of a field; only a number has one. -/
def sign (f : Field) (flags : Flags) : List Char :=
  if !f.isNumber then []
  else if f.negative then ['-']
  else if flags.plus then ['+']
  else if flags.blank then [' ']
  else []

/-- The text of a field, filled up to a width: on the left with blanks, or between sign and digits
with zeros, or on the right with blanks. -/
def chars (f : Field) (flags : Flags) (width : Nat) : List Char :=
  let front := f.sign flags ++ f.mark
  let missing := width - (front.length + f.body.length)
  if flags.left then front ++ f.body ++ List.replicate missing ' '
  else if flags.zero && f.isNumber then front ++ List.replicate missing '0' ++ f.body
  else List.replicate missing ' ' ++ front ++ f.body

end Field

/-! ### Places and templates -/

/-- The flags of a place with a width: a negative one puts what fills the place to the left. -/
def Flags.withWidth (flags : Flags) (width : Int) : Flags :=
  { flags with left := flags.left || decide (width < 0) }

/-- A place filled, and the arguments that are left. -/
def fillPlace (p : Placeholder) (last : Nat) (s : Supply) : Except Mismatch (List Char × Supply) :=
  do
    let s ← s.turnTo p.field
    let (width, s) ← p.width.value s maxWidth .wideWidth .hugeWidth
    let (precision, s) ← p.precision.value s maxPrecision .widePrecision .hugePrecision
    match p.conversion with
    | none => .error .unfinished
    | some c =>
      let (v, s) ← s.next
      let field ← Field.ofValue c last p.flags.alternate (precision.map Int.toNat) v
      s.checkRecord
      let width := width.getD 0
      return (field.chars (p.flags.withWidth width) width.natAbs, s)

/-- The pieces of a template, filled one after the other. -/
def fillPieces (s : Supply) : List Piece → Except Mismatch (List Char)
  | [] => s.checkEnd.map fun _ => []
  | .char c :: ps => (fillPieces s ps).map (c :: ·)
  | .place p last :: ps => do
    let (cs, s) ← fillPlace p last s
    return cs ++ (← fillPieces s ps)

/-- A message as it is, if there are no arguments; else with its places filled. -/
def fill (message : String) (args : List Value) : Except Mismatch String :=
  if args.isEmpty then .ok message
  else (fillPieces (Supply.ofArguments args) (pieces 0 message.toList)).map String.ofList

end QuizHall.Template
