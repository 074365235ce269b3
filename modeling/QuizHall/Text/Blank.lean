/-!
# Blank characters

Which characters count as blank when a text is trimmed. Three sets are in use: the Unicode
property White_Space, the same set widened by the four information separators, and the six
ASCII blanks.

## Main definitions

* `isBlank`: the Unicode property White_Space.
* `isBlankOrSeparator`: White_Space and U+001C to U+001F.
* `isAsciiBlank`: space and U+0009 to U+000D.
* `trim`: a text without the characters of a set at both ends.
-/

namespace QuizHall.Text

/-- Whether a code point lies in one of some closed ranges. -/
def inRanges (ranges : List (Nat × Nat)) (c : Char) : Bool :=
  ranges.any fun r => decide (r.1 ≤ c.toNat ∧ c.toNat ≤ r.2)

/-- The ranges of the Unicode property White_Space: 25 code points. -/
def whiteSpaceRanges : List (Nat × Nat) :=
  [(0x9, 0xD), (0x20, 0x20), (0x85, 0x85), (0xA0, 0xA0), (0x1680, 0x1680), (0x2000, 0x200A),
   (0x2028, 0x2029), (0x202F, 0x202F), (0x205F, 0x205F), (0x3000, 0x3000)]

example : (whiteSpaceRanges.map fun r => r.2 + 1 - r.1).sum = 25 := by decide

/-- The Unicode property White_Space. -/
def isBlank (c : Char) : Bool := inRanges whiteSpaceRanges c

/-- White_Space or one of the four information separators. -/
def isBlankOrSeparator (c : Char) : Bool := inRanges ((0x1C, 0x1F) :: whiteSpaceRanges) c

/-- Space, tab, line feed, vertical tab, form feed or carriage return. -/
def isAsciiBlank (c : Char) : Bool := inRanges [(0x9, 0xD), (0x20, 0x20)] c

/-- A text without the leading and the trailing characters of a set. -/
def trim (p : Char → Bool) (cs : List Char) : List Char :=
  ((cs.dropWhile p).reverse.dropWhile p).reverse

/-- A text that neither begins nor ends with a character of the set stays as it is. -/
theorem trim_eq_self {p : Char → Bool} {cs : List Char}
    (hh : ∀ c ∈ cs.head?, p c = false) (hl : ∀ c ∈ cs.getLast?, p c = false) :
    trim p cs = cs := by
  have key : ∀ l : List Char, (∀ c ∈ l.head?, p c = false) → l.dropWhile p = l := by
    intro l h
    cases l with
    | nil => rfl
    | cons c r => simp [h c (by simp)]
  unfold trim
  rw [key cs hh, key cs.reverse (by simpa using hl), List.reverse_reverse]

end QuizHall.Text
