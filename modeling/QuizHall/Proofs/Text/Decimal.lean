import Mathlib.Data.List.TakeWhile
import QuizHall.Text.Integer

/-!
# Decimal Digits

What the decimal text of an integer looks like: ASCII digits, at least one, without a needless
zero in front, behind a minus sign if the integer is negative. These are the facts by which the
readers of JSON and of stored integers tell such a text from others. The other way round, whatever
text an integer is read from, the integer has no more digits than the text.

## Main results

* `isDigit_of_mem`: only ASCII digits are written.
* `digits_ne_cons`: no sign is written in front of the digits of a natural number.
* `head?_digits_ne_zero`: a positive number does not begin with a zero.
* `length_chars_le`: how long the text of an integer can be.
* `mem_alphabet`: the characters that the text of an integer consists of.
* `natAbs_lt_of_read`: how large an integer can be that is read from a text.
-/

namespace QuizHall.Integer

-- Powers are those of the core library, whatever else is imported.
attribute [local instance (2000)] instPowNat

/-- Only ASCII digits are written. -/
theorem isDigit_of_mem {c : Char} {n : Nat} (h : c ∈ digits n) : 48 ≤ c.toNat ∧ c.toNat ≤ 57 := by
  have hc : c.isDigit := Nat.isDigit_of_mem_toDigits (by omega) (by omega) h
  exact Char.isDigit_iff_toNat.mp hc

/-- What is written has a value, digit by digit. -/
theorem isSome_digit?_of_mem {c : Char} {n : Nat} (h : c ∈ digits n) : (digit? c).isSome := by
  rw [digit?, if_pos (isDigit_of_mem h)]
  rfl

/-- At least one digit is written. -/
theorem digits_ne_nil (n : Nat) : digits n ≠ [] := Nat.toDigits_ne_nil

/-- The digits of a number do not begin with anything else. -/
theorem digits_ne_cons {c : Char} (hc : digit? c = none) (n : Nat) (r : List Char) :
    digits n ≠ c :: r := by
  intro h
  have hmem : c ∈ digits n := by
    rw [h]
    exact List.mem_cons_self
  have hd := isSome_digit?_of_mem hmem
  rw [hc] at hd
  cases hd

/-- A positive number does not begin with a zero. -/
theorem head?_digits_ne_zero {n : Nat} (h : 0 < n) : (digits n).head? ≠ some '0' := by
  induction n using Nat.strongRecOn with
  | ind n ih =>
      rw [digits, Nat.toDigits_eq_if (by decide)]
      split
      · next hn =>
        have hd : ∀ d < 10, 0 < d → d.digitChar ≠ '0' := by decide
        simpa using hd n hn h
      · next hn =>
        have hq : (digits (n / 10)).head? ≠ some '0' :=
          ih (n / 10) (by omega) (by omega)
        obtain ⟨c, cs, hcs⟩ := List.exists_cons_of_ne_nil (digits_ne_nil (n / 10))
        rw [digits] at hcs hq
        rw [hcs] at hq ⊢
        simpa using hq

/-- A number below `10 ^ k` has at most `k` digits. -/
theorem length_digits_le {n k : Nat} (hk : 0 < k) (h : n < 10 ^ k) : (digits n).length ≤ k :=
  (Nat.length_toDigits_le_iff (by decide) hk).mpr h

/-- An integer is written as digits, behind a minus sign if it is negative. -/
theorem chars_eq (n : Int) :
    chars n = (if n < 0 then ['-'] else []) ++ digits n.natAbs := by
  cases n with
  | ofNat n => simp [chars]
  | negSucc n => simp [chars]

/-- An integer of less than `10 ^ k` in absolute value has at most `k` digits and a sign. -/
theorem length_chars_le {n : Int} {k : Nat} (hk : 0 < k) (h : n.natAbs < 10 ^ k) :
    (chars n).length ≤ k + 1 := by
  have hd := length_digits_le hk h
  rw [chars_eq]
  split <;> simp <;> omega

/-- The characters that integers are written with. -/
def alphabet : List Char := ['-', '0', '1', '2', '3', '4', '5', '6', '7', '8', '9']

/-- The text of an integer consists of minus signs and digits. -/
theorem mem_alphabet {c : Char} {n : Int} (h : c ∈ chars n) : c ∈ alphabet := by
  rw [chars_eq, List.mem_append] at h
  rcases h with h | h
  · split at h
    · rw [List.mem_singleton.mp h]
      exact List.mem_cons_self
    · cases h
  · obtain ⟨hmin, hmax⟩ := isDigit_of_mem h
    have hdigits : ∀ d < 10, Char.ofNat (48 + d) ∈ alphabet := by decide
    have hc : 48 + (c.toNat - 48) = c.toNat := by omega
    have hmem := hdigits (c.toNat - 48) (by omega)
    rwa [hc, Char.ofNat_toNat] at hmem

/-! ### What was read -/

/-- A character that has a value as a digit is no separator. -/
theorem ne_separator_of_digit? {c : Char} {d : Nat} (h : digit? c = some d) : c ≠ '_' := by
  rintro rfl
  cases h

/-- A digit is worth less than ten. -/
theorem digit?_lt {c : Char} {d : Nat} (h : digit? c = some d) : d < 10 := by
  rw [digit?] at h
  split at h
  · obtain rfl := Option.some.inj h
    omega
  · cases h

/-- What a text is like from which a number can be read that begins with the digits of `acc`: it
consists of digits and separators, no separator stands at its end or beside another one, and the
number is as small as its digits make it. -/
structure ReadRun (acc : Nat) (r : List Char) (n : Nat) : Prop where
  /-- Nothing is read but digits and separators. -/
  digits : ∀ c ∈ r, (digit? c).isSome ∨ c = '_'
  /-- The last character is a digit. -/
  last : r.getLast? ≠ some '_'
  /-- No two separators stand side by side. -/
  apart : ∀ p ∈ r.zip r.tail, ¬ (p.1 = '_' ∧ p.2 = '_')
  /-- The value has no more digits than were read. -/
  lt : n < (acc + 1) * 10 ^ (r.filter (· ≠ '_')).length

/-- One more digit in front. -/
theorem ReadRun.cons {acc d n : Nat} {c : Char} {r : List Char} (hd : digit? c = some d)
    (h : ReadRun (acc * 10 + d) r n) : ReadRun acc (c :: r) n := by
  have hc := ne_separator_of_digit? hd
  have hlt := digit?_lt hd
  constructor
  · intro c' hc'
    rcases List.mem_cons.mp hc' with rfl | hc'
    · exact .inl (by rw [hd]; rfl)
    · exact h.digits c' hc'
  · cases r with
    | nil => simpa using hc
    | cons c' r => simpa using h.last
  · intro p hp
    cases r with
    | nil => cases hp
    | cons c' r =>
        rcases List.mem_cons.mp hp with rfl | hp
        · exact fun hboth => hc hboth.1
        · exact h.apart p hp
  · rw [List.filter_cons_of_pos (by simpa using hc), List.length_cons, Nat.pow_succ]
    have hn := h.lt
    have hle : (acc * 10 + d + 1) * 10 ^ (r.filter (· ≠ '_')).length ≤
        (acc + 1) * 10 * 10 ^ (r.filter (· ≠ '_')).length :=
      Nat.mul_le_mul_right _ (by omega)
    calc n < _ := hn
      _ ≤ _ := hle
      _ = _ := by rw [Nat.mul_assoc, Nat.mul_comm 10]

/-- A separator in front of a digit. -/
theorem ReadRun.separator {acc n : Nat} {c : Char} {r : List Char} (hc : c ≠ '_')
    (h : ReadRun acc (c :: r) n) : ReadRun acc ('_' :: c :: r) n := by
  constructor
  · intro c' hc'
    rcases List.mem_cons.mp hc' with rfl | hc'
    · exact .inr rfl
    · exact h.digits c' hc'
  · simpa using h.last
  · intro p hp
    rcases List.mem_cons.mp hp with rfl | hp
    · exact fun hboth => hc hboth.2
    · exact h.apart p hp
  · exact h.lt

/-- Whatever is read after other digits is such a run. -/
theorem readRun_of_readMore {acc n : Nat} {r : List Char} (h : readMore acc r = some n) :
    ReadRun acc r n := by
  fun_induction readMore acc r with
  | case1 acc =>
      obtain rfl := Option.some.inj h
      exact ⟨by simp, by simp, by simp, by simp⟩
  | case2 acc c r ih =>
      obtain ⟨d, hd, hrest⟩ := Option.bind_eq_some_iff.mp h
      exact ((ih d hrest).cons hd).separator (ne_separator_of_digit? hd)
  | case3 acc c r hne ih =>
      obtain ⟨d, hd, hrest⟩ := Option.bind_eq_some_iff.mp h
      exact (ih d hrest).cons hd

/-- **A number has no more digits than are counted** in the text that it is read from. -/
theorem natAbs_lt_of_read {cs : List Char} {n : Int} (h : read cs = some n) :
    n.natAbs < 10 ^ countDigits cs := by
  obtain ⟨m, hread, hm⟩ : ∃ m, readNat (dropSign cs) = some m ∧ n.natAbs = m := by
    unfold read at h
    unfold dropSign
    split at h
    all_goals
      obtain ⟨z, hz, hn⟩ := Option.map_eq_some_iff.mp h
      obtain ⟨m, hm, hcast⟩ := Option.bind_eq_some_iff.mp hz
      obtain rfl := Option.some.inj hcast
      exact ⟨m, hm, by omega⟩
  rw [hm, countDigits]
  generalize dropSign cs = r at hread ⊢
  cases r with
  | nil => cases hread
  | cons c r =>
      obtain ⟨d, hd, hrest⟩ := Option.bind_eq_some_iff.mp hread
      have hc := ne_separator_of_digit? hd
      have hrun : ReadRun 0 (c :: r) m := .cons hd (by simpa using readRun_of_readMore hrest)
      have htake : (c :: r).takeWhile (fun c => (digit? c).isSome || c = '_') = c :: r := by
        refine List.takeWhile_eq_self_iff.mpr fun c' hc' => ?_
        simpa using hrun.digits c' hc'
      have hsep : separates (c :: r) = true := by
        have hapart :
            ((c :: r).zip (c :: r).tail).any (fun p => p.1 = '_' && p.2 = '_') = false := by
          refine List.any_eq_false.mpr fun p hp => ?_
          simpa using hrun.apart p hp
        rw [separates, hapart]
        simpa [hc] using hrun.last
      simp only [htake, hsep, if_true]
      simpa using hrun.lt

end QuizHall.Integer
