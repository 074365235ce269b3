/-!
# Decimal integers as text

Writing an integer in decimal, and the reading rule shared by every place that takes an integer
as text: an optional sign, then ASCII digits, where a single `_` may stand between two digits.
Leading zeros are allowed.

## Main definitions

* `Integer.text`: the decimal digits of an integer, with `-` in front of a negative one.
* `Integer.read`: the integer that a text writes, if it writes one.

## Main result

* `Integer.read_chars`: reading what was written gives the integer back.
-/

namespace QuizHall.Integer

-- Powers are those of the core library, whatever else is imported.
attribute [local instance (2000)] instPowNat

/-! ### Writing -/

/-- The decimal digits of a natural number, most significant first. -/
def digits (n : Nat) : List Char := Nat.toDigits 10 n

/-- An integer in decimal. -/
def chars : Int → List Char
  | .ofNat n => digits n
  | .negSucc n => '-' :: digits (n + 1)

/-- An integer in decimal, as a string. -/
def text (n : Int) : String := String.ofList (chars n)

/-- A natural number in decimal, as a string. -/
def natText (n : Nat) : String := String.ofList (digits n)

/-- A natural number in decimal, filled up with leading zeros to a width. -/
def padded (width n : Nat) : String :=
  String.ofList (List.replicate (width - (digits n).length) '0' ++ digits n)

/-! ### Reading -/

/-- The value of an ASCII digit. -/
def digit? (c : Char) : Option Nat :=
  if 48 ≤ c.toNat ∧ c.toNat ≤ 57 then some (c.toNat - 48) else none

/-- Reads the digits that follow the ones whose value is `acc`. -/
def readMore (acc : Nat) : List Char → Option Nat
  | [] => some acc
  | '_' :: c :: r => (digit? c).bind fun d => readMore (acc * 10 + d) r
  | c :: r => (digit? c).bind fun d => readMore (acc * 10 + d) r

/-- Reads digits without a sign; at least one has to be there. -/
def readNat : List Char → Option Nat
  | [] => none
  | c :: r => (digit? c).bind fun d => readMore d r

/-- Reads an optional sign and digits. -/
def read : List Char → Option Int
  | '-' :: r => (readNat r).map fun n => -(n : Int)
  | '+' :: r => (readNat r).map fun n => (n : Int)
  | r => (readNat r).map fun n => (n : Int)

/-! ### Separators -/

/-- Whether every `_` of a text stands between two other characters. -/
def separates (cs : List Char) : Bool :=
  cs.head? != some '_' && cs.getLast? != some '_' &&
    !(cs.zip cs.tail).any fun p => p.1 = '_' && p.2 = '_'

/-- A text without a sign at its head. -/
def dropSign : List Char → List Char
  | '-' :: r => r
  | '+' :: r => r
  | r => r

/-- How many digits an integer has that a text begins with; none if its separators stand wrong. -/
def countDigits (cs : List Char) : Nat :=
  let run := (dropSign cs).takeWhile fun c => (digit? c).isSome || c = '_'
  if separates run then (run.filter (· ≠ '_')).length else 0

/-! ### Reading what was written -/

/-- A written digit reads as itself and is no separator and no sign. -/
private theorem digitChar_facts : ∀ d < 10, digit? d.digitChar = some d ∧
    d.digitChar ≠ '_' ∧ d.digitChar ≠ '-' ∧ d.digitChar ≠ '+' := by decide

private theorem digit?_digitChar {d : Nat} (h : d < 10) : digit? d.digitChar = some d :=
  (digitChar_facts d h).1

private theorem digitChar_ne_underscore {d : Nat} (h : d < 10) : d.digitChar ≠ '_' :=
  (digitChar_facts d h).2.1

theorem readMore_cons {acc : Nat} {c : Char} {r : List Char} (h : c ≠ '_') :
    readMore acc (c :: r) = (digit? c).bind fun d => readMore (acc * 10 + d) r := by
  rw [readMore]
  intro c' r' hc
  exact absurd hc h

/-- A natural number is read back, whatever number stands in front of it. -/
theorem readMore_digits (acc n : Nat) :
    readMore acc (digits n) = some (acc * 10 ^ (digits n).length + n) := by
  induction n using Nat.strongRecOn with
  | ind n ih =>
    unfold digits
    rw [Nat.toDigits_eq_if (by decide)]
    split
    · next h =>
      rw [readMore_cons (digitChar_ne_underscore h), digit?_digitChar h]
      simp [readMore]
    · next h =>
      have hq : n / 10 < n := Nat.div_lt_self (by omega) (by decide)
      have hsplit : ∀ (l : List Char) (a b : Nat), readMore a l = some b →
          readMore a (l ++ [(n % 10).digitChar]) = some (b * 10 + n % 10) := by
        intro l
        induction l with
        | nil =>
          intro a b hab
          have hab' : a = b := by simpa [readMore] using hab
          subst hab'
          have hd : n % 10 < 10 := Nat.mod_lt _ (by decide)
          rw [List.nil_append, readMore_cons (digitChar_ne_underscore hd), digit?_digitChar hd]
          simp [readMore]
        | cons c l ihl =>
          intro a b hab
          by_cases hc : c = '_'
          · subst hc
            cases l with
            | nil => simp [readMore, digit?] at hab
            | cons c' l' =>
              rw [readMore] at hab
              have : ('_' :: c' :: l') ++ [(n % 10).digitChar] =
                '_' :: c' :: (l' ++ [(n % 10).digitChar]) := rfl
              rw [this, readMore]
              cases hd : digit? c' with
              | none => rw [hd] at hab; simp at hab
              | some d =>
                rw [hd] at hab
                simp only [Option.bind_some] at hab ⊢
                by_cases hc' : c' = '_'
                · subst hc'; simp [digit?] at hd
                · have hl := ihl a
                  rw [readMore_cons hc', hd] at hl
                  have := hl b (by simpa using hab)
                  rw [List.cons_append, readMore_cons hc', hd] at this
                  simpa using this
          · rw [readMore_cons hc] at hab
            rw [List.cons_append, readMore_cons hc]
            cases hd : digit? c with
            | none => rw [hd] at hab; simp at hab
            | some d =>
              rw [hd] at hab
              simp only [Option.bind_some] at hab ⊢
              exact ihl _ _ hab
      have ih' := ih (n / 10) hq
      unfold digits at ih'
      rw [hsplit _ _ _ ih']
      rw [List.length_append, List.length_singleton, Nat.pow_succ]
      congr 1
      have := Nat.div_add_mod n 10
      rw [Nat.add_mul, ← Nat.mul_assoc]
      omega

private theorem digits_eq_cons (n : Nat) :
    ∃ d l, d < 10 ∧ digits n = d.digitChar :: l := by
  induction n using Nat.strongRecOn with
  | ind n ih =>
    unfold digits
    rw [Nat.toDigits_eq_if (by decide)]
    split
    · next h => exact ⟨n, [], h, rfl⟩
    · next h =>
      obtain ⟨d, l, hd, hl⟩ := ih (n / 10) (Nat.div_lt_self (by omega) (by decide))
      unfold digits at hl
      exact ⟨d, l ++ [(n % 10).digitChar], hd, by rw [hl]; rfl⟩

theorem readNat_digits (n : Nat) : readNat (digits n) = some n := by
  obtain ⟨d, l, hd, hl⟩ := digits_eq_cons n
  have h := readMore_digits 0 n
  rw [hl] at h ⊢
  rw [readMore_cons (digitChar_ne_underscore hd), digit?_digitChar hd] at h
  rw [readNat, digit?_digitChar hd]
  simpa using h

/-- Reading what was written gives the integer back. -/
theorem read_chars (n : Int) : read (chars n) = some n := by
  cases n with
  | ofNat n =>
    obtain ⟨d, l, hd, hl⟩ := digits_eq_cons n
    obtain ⟨-, -, hm, hp⟩ := digitChar_facts d hd
    have hn := readNat_digits n
    change read (digits n) = _
    rw [hl] at hn ⊢
    unfold read
    split
    · next h => exact absurd (List.cons.inj h).1 hm
    · next h => exact absurd (List.cons.inj h).1 hp
    · rw [hn]; rfl
  | negSucc n =>
    unfold chars read
    simp only [readNat_digits]
    rfl

end QuizHall.Integer
