import Mathlib.Data.List.TakeWhile
import QuizHall.Json.Reader
import QuizHall.Proofs.Text.Decimal

/-!
# The Tokens of a Compact Text

The printer writes a value as one run of characters, and the tokenizer cuts such a run back into
tokens. This module names the tokens that belong to a value, and shows that the tokenizer finds
exactly these in the compact text, whatever text follows.

A number has no end of its own: it reaches up to the next blank, quotation mark or punctuation.
Hence the hypothesis `Delimited` on the text behind a value. Everything that the printer puts
behind a value satisfies it, which is what carries the induction through arrays and objects.

## Main results

* `scan_escape`: one character of a string is read back from its escape.
* `scan_quoted`: a string is read back, whatever characters it consists of.
* `atom?_chars`: an integer that is not too wide is read back from its digits.
* `scan_chars`: the tokens of the compact text of a value are `Value.tokens`.
-/

namespace QuizHall.Json

/-! ### The tokens of a value -/

mutual

/-- The tokens that the compact text of a value consists of. -/
def Value.tokens : Value → List Token
  | .text s => [.text s]
  | .list [] => [.openList, .closeList]
  | .list (v :: vs) => .openList :: (v.tokens ++ itemsTokens vs)
  | .object [] => [.openObject, .closeObject]
  | .object ((n, v) :: fs) =>
    .openObject :: .text n :: .colon :: (v.tokens ++ fieldsTokens fs)
  | .null => [.atom .null]
  | .flag b => [.atom (.flag b)]
  | .int n => [.atom (.int n)]
  | .float x => [.atom (.float x)]

/-- The tokens of the items after the first one, up to the closing bracket. -/
def itemsTokens : List Value → List Token
  | [] => [.closeList]
  | v :: vs => .comma :: (v.tokens ++ itemsTokens vs)

/-- The tokens of the fields after the first one, up to the closing brace. -/
def fieldsTokens : List (String × Value) → List Token
  | [] => [.closeObject]
  | (n, v) :: fs => .comma :: .text n :: .colon :: (v.tokens ++ fieldsTokens fs)

end

mutual

/-- Whether a value holds no doubles, and no integer of more than `width` characters. -/
def Value.IsPlain (width : Nat) : Value → Prop
  | .null | .flag _ | .text _ => True
  | .int n => (Integer.chars n).length ≤ width
  | .float _ => False
  | .list vs => ItemsPlain width vs
  | .object fs => FieldsPlain width fs

/-- Whether all items of an array are plain. -/
def ItemsPlain (width : Nat) : List Value → Prop
  | [] => True
  | v :: vs => v.IsPlain width ∧ ItemsPlain width vs

/-- Whether all fields of an object are plain. -/
def FieldsPlain (width : Nat) : List (String × Value) → Prop
  | [] => True
  | (_, v) :: fs => v.IsPlain width ∧ FieldsPlain width fs

end

/-! ### Strings -/

/-- A hexadecimal digit has the value that it was written for. -/
theorem hexValue?_hexDigit : ∀ d < 16, hexValue? (hexDigit d) = some d := by
  decide

/-- **One character of a string** is read back from its escape: a short escape, a `\u00xx`, or
the character itself. -/
theorem scan_escape (width : Nat) (done : List Token) (seen rest : List Char) (c : Char) :
    scan width done (.text seen) (escape c ++ rest) = scan width done (.text (c :: seen)) rest := by
  rw [escape]
  split
  · next h => subst h; rfl
  split
  · next h => subst h; rfl
  split
  · next h => subst h; rfl
  split
  · next h => subst h; rfl
  split
  · next h => subst h; rfl
  split
  · next h => subst h; rfl
  split
  · next h => subst h; rfl
  split
  · next h =>
    -- a control character without a short escape: its code has two hexadecimal digits
    have h₁ := hexValue?_hexDigit (c.toNat / 16) (by omega)
    have h₂ := hexValue?_hexDigit (c.toNat % 16) (by omega)
    have h₀ : hexValue? '0' = some 0 := by decide
    have hcode : c.toNat / 16 * 16 + c.toNat % 16 = c.toNat := by omega
    have hhigh : ¬ (0xD800 ≤ c.toNat ∧ c.toNat ≤ 0xDBFF) := by omega
    have hlow : ¬ (0xDC00 ≤ c.toNat ∧ c.toNat ≤ 0xDFFF) := by omega
    simp [scan, step, quote, h₀, h₁, h₂, endCode, hcode, hhigh, hlow, Char.ofNat_toNat]
  · next hq hb _ _ _ _ _ h => simp [scan, step, hq, hb, h]

/-- The characters of a string, each escaped, are read back in their order. -/
theorem scan_escapes (width : Nat) (done : List Token) (seen cs rest : List Char) :
    scan width done (.text seen) (cs.flatMap escape ++ rest) =
      scan width done (.text (cs.reverse ++ seen)) rest := by
  induction cs generalizing seen with
  | nil => rfl
  | cons c cs ih =>
      rw [List.flatMap_cons, List.append_assoc, scan_escape, ih]
      simp

/-- **A string is read back**, whatever characters it consists of. -/
theorem scan_quoted (width : Nat) (done : List Token) (cs rest : List Char) :
    scan width done .gap (quoted cs ++ rest) =
      scan width (.text (String.ofList cs) :: done) .gap rest := by
  have hopen : scan width done .gap (quoted cs ++ rest) =
      scan width done (.text []) (cs.flatMap escape ++ (quote :: rest)) := by
    simp [quoted, scan, step, stepGap, punctuation?, isGap, quote]
  rw [hopen, scan_escapes]
  simp [scan, step]

/-! ### Numbers -/

/-- The characters that end a number or word in front of them. -/
def endsBare (c : Char) : Bool := (punctuation? c).isSome || isGap c || c = quote

/-- Whether a text does not continue the number or word in front of it. -/
def Delimited (rest : List Char) : Prop := ∀ c ∈ rest.head?, endsBare c = true

/-- A run of characters that do not end a number or word is collected. -/
theorem scan_bare (width : Nat) (done : List Token) (seen rest : List Char) {cs : List Char}
    (h : ∀ c ∈ cs, endsBare c = false) :
    scan width done (.bare seen) (cs ++ rest) =
      scan width done (.bare (cs.reverse ++ seen)) rest := by
  induction cs generalizing seen with
  | nil => rfl
  | cons c cs ih =>
      have hc : endsBare c = false := h c (by simp)
      have hcs : ∀ c' ∈ cs, endsBare c' = false := fun c' hc' => h c' (by simp [hc'])
      rw [endsBare] at hc
      rw [List.cons_append, scan]
      simp only [step, hc, Bool.false_eq_true, ↓reduceIte, List.reverse_nil, List.nil_append]
      rw [ih _ hcs]
      simp

/-- A number or word ends in front of whatever does not continue it. -/
theorem scan_atom_end {width : Nat} {seen rest : List Char} {v : Value}
    (hv : atom? width seen.reverse = some v) (hr : Delimited rest) (done : List Token) :
    scan width done (.bare seen) rest = scan width (.atom v :: done) .gap rest := by
  cases rest with
  | nil => simp [scan, hv]
  | cons c r =>
      have hc : endsBare c = true := hr c (by simp)
      rw [endsBare] at hc
      rw [scan, scan]
      simp only [step, hc, ↓reduceIte, hv, Option.map_some]
      simp

/-- A number or word is read back as the scalar that it stands for. -/
theorem scan_atom {width : Nat} {cs rest : List Char} {v : Value} (hne : cs ≠ [])
    (hcs : ∀ c ∈ cs, endsBare c = false) (hv : atom? width cs = some v) (hr : Delimited rest)
    (done : List Token) :
    scan width done .gap (cs ++ rest) = scan width (.atom v :: done) .gap rest := by
  obtain ⟨c, cs, rfl⟩ := List.exists_cons_of_ne_nil hne
  have hc : endsBare c = false := hcs c (by simp)
  have hstep : stepGap c = ([], .bare [c]) := by
    simp only [endsBare, Bool.or_eq_false_iff, decide_eq_false_iff_not,
      Option.isSome_eq_false_iff, Option.isNone_iff_eq_none] at hc
    obtain ⟨⟨hp, hg⟩, hq⟩ := hc
    simp [stepGap, hp, hg, hq]
  rw [List.cons_append, scan]
  simp only [step, hstep, List.reverse_nil, List.nil_append]
  rw [scan_bare width done [c] rest fun c' hc' => hcs c' (by simp [hc']),
    scan_atom_end (by simpa using hv) hr]

/-- Neither a digit nor a minus sign ends a number. -/
theorem endsBare_of_mem_chars {c : Char} {n : Int} (h : c ∈ Integer.chars n) :
    endsBare c = false := by
  have hplain : Integer.alphabet.all (fun c => !endsBare c) = true := rfl
  simpa using List.all_eq_true.mp hplain c (Integer.mem_alphabet h)

/-- The decimal text of a natural number has no needless zero. -/
theorem isPlainNat_digits (n : Nat) : isPlainNat (Integer.digits n) = true := by
  rcases Nat.eq_zero_or_pos n with rfl | hn
  · decide
  · have hz := Integer.head?_digits_ne_zero hn
    have hall : ∀ c ∈ Integer.digits n, (Integer.digit? c).isSome = true :=
      fun c hc => Integer.isSome_digit?_of_mem hc
    obtain ⟨c, cs, hcs⟩ := List.exists_cons_of_ne_nil (Integer.digits_ne_nil n)
    rw [hcs] at hz hall ⊢
    have hc : c ≠ '0' := by simpa using hz
    rw [isPlainNat]
    · exact List.all_eq_true.mpr hall
    · exact List.cons_ne_nil c cs
    · exact fun h => hc (List.cons.inj h).1
    · exact fun _ h => hc (List.cons.inj h).1

/-- The sign of an integer is dropped, and nothing else. -/
theorem dropMinus_chars (n : Int) : dropMinus (Integer.chars n) = Integer.digits n.natAbs := by
  cases n with
  | negSucc n => rfl
  | ofNat n =>
      change dropMinus (Integer.digits n) = Integer.digits n
      rw [dropMinus]
      exact Integer.digits_ne_cons rfl n

/-- All digits of an integer stand in front of its point, for want of one. -/
theorem wholeDigits_chars (n : Int) : wholeDigits (Integer.chars n) = Integer.digits n.natAbs := by
  rw [wholeDigits, dropMinus_chars]
  exact List.takeWhile_eq_self_iff.mpr fun c hc => Integer.isSome_digit?_of_mem hc

/-- An integer of at most `width` characters is not overlong. -/
theorem isOverlong_chars {width : Nat} {n : Int} (h : (Integer.chars n).length ≤ width) :
    isOverlong width (Integer.chars n) = false := by
  have hsign : (if (Integer.chars n).head? = some '-' then 1 else 0) +
      (Integer.digits n.natAbs).length ≤ (Integer.chars n).length := by
    rw [Integer.chars_eq]
    split
    · next hn =>
      split
      · simp; omega
      · simp
    · have hsign : (Integer.digits n.natAbs).head? ≠ some '-' := by
        intro hhead
        obtain ⟨r, hr⟩ := List.head?_eq_some_iff.mp hhead
        exact Integer.digits_ne_cons rfl _ r hr
      simp [hsign]
  have hw : ¬ width < (Integer.digits n.natAbs).length +
      (if (Integer.chars n).head? = some '-' then 1 else 0) := by omega
  simp [isOverlong, wholeDigits_chars, hw]

/-- An integer that is not too wide is one in the notation of JSON. -/
theorem plainInteger_chars {width : Nat} {n : Int} (h : (Integer.chars n).length ≤ width) :
    plainInteger width (Integer.chars n) = .ok n := by
  rw [plainInteger, isOverlong_chars h, dropMinus_chars, isPlainNat_digits, Integer.read_chars]
  rfl

/-- **An integer that is not too wide** is read back from its digits. -/
theorem atom?_chars {width : Nat} {n : Int} (h : (Integer.chars n).length ≤ width) :
    atom? width (Integer.chars n) = some (.int n) := by
  -- each of the words has a letter that is not in the alphabet of integers
  have hword : ∀ (cs : List Char) (c : Char), c ∈ cs → c ∉ Integer.alphabet →
      Integer.chars n ≠ cs := by
    rintro cs c hc hnot rfl
    exact hnot (Integer.mem_alphabet hc)
  simp only [atom?]
  rw [if_neg (hword _ 't' (by simp) (by simp [Integer.alphabet])),
    if_neg (hword _ 'f' (by simp) (by simp [Integer.alphabet])),
    if_neg (hword _ 'n' (by simp) (by simp [Integer.alphabet])),
    if_neg (hword _ 'N' (by simp) (by simp [Integer.alphabet])),
    if_neg (hword _ 'I' (by simp) (by simp [Integer.alphabet])),
    if_neg (hword _ 'I' (by simp) (by simp [Integer.alphabet])), number?, plainInteger_chars h]

/-! ### Values -/

/-- Whatever ends a number is not part of the number in front of it. -/
theorem delimited_cons {c : Char} (h : endsBare c = true) (rest : List Char) :
    Delimited (c :: rest) := by
  rintro d hd
  obtain rfl : c = d := by simpa using hd
  exact h

/-- What stands behind a value in an array does not continue it. -/
theorem delimited_itemsChars (vs : List Value) (rest : List Char) :
    Delimited (itemsChars vs ++ rest) := by
  cases vs with
  | nil => exact delimited_cons (by decide) _
  | cons v vs => exact delimited_cons (by decide) _

/-- What stands behind a value in an object does not continue it. -/
theorem delimited_fieldsChars (fs : List (String × Value)) (rest : List Char) :
    Delimited (fieldsChars fs ++ rest) := by
  rcases fs with - | ⟨⟨n, v⟩, fs⟩
  · exact delimited_cons (by decide) _
  · exact delimited_cons (by decide) _

/-- A character that is punctuation is a token of its own. -/
theorem scan_punctuation {width : Nat} {c : Char} {t : Token} (h : punctuation? c = some t)
    (done : List Token) (rest : List Char) :
    scan width done .gap (c :: rest) = scan width (t :: done) .gap rest := by
  rw [scan]
  simp [step, stepGap, h]

mutual

/-- **The tokens of a compact text** are those of the value that was written. -/
theorem scan_chars {width : Nat} (done : List Token) {rest : List Char} (hr : Delimited rest) :
    ∀ v : Value, v.IsPlain width →
      scan width done .gap (v.chars ++ rest) = scan width (v.tokens.reverse ++ done) .gap rest
  | .null, _ => by
      rw [Value.chars, Value.tokens]
      exact scan_atom (by simp) (by simp [endsBare, punctuation?, isGap, quote])
        (by simp [atom?]) hr done
  | .flag true, _ => by
      rw [Value.chars, Value.tokens]
      exact scan_atom (by simp) (by simp [endsBare, punctuation?, isGap, quote])
        (by simp [atom?]) hr done
  | .flag false, _ => by
      rw [Value.chars, Value.tokens]
      exact scan_atom (by simp) (by simp [endsBare, punctuation?, isGap, quote])
        (by simp [atom?]) hr done
  | .int n, h => by
      rw [Value.IsPlain] at h
      rw [Value.chars, Value.tokens]
      refine scan_atom ?_ (fun c hc => endsBare_of_mem_chars hc) (atom?_chars h) hr done
      rw [Integer.chars_eq]
      exact List.append_ne_nil_of_right_ne_nil _ (Integer.digits_ne_nil _)
  | .float x, h => absurd h (by simp [Value.IsPlain])
  | .text s, _ => by
      rw [Value.chars, scan_quoted, Value.tokens, String.ofList_toList]
      rfl
  | .list [], _ => by
      rw [Value.chars, Value.tokens]
      exact (scan_punctuation rfl done _).trans (scan_punctuation rfl _ rest)
  | .list (v :: vs), h => by
      rw [Value.IsPlain, ItemsPlain] at h
      obtain ⟨hv, hvs⟩ := h
      rw [Value.chars, List.cons_append, List.append_assoc, scan_punctuation rfl,
        scan_chars _ (delimited_itemsChars vs rest) v hv, scan_itemsChars _ rest vs hvs,
        Value.tokens]
      simp
  | .object [], _ => by
      rw [Value.chars, Value.tokens]
      exact (scan_punctuation rfl done _).trans (scan_punctuation rfl _ rest)
  | .object ((n, v) :: fs), h => by
      rw [Value.IsPlain, FieldsPlain] at h
      obtain ⟨hv, hfs⟩ := h
      rw [Value.chars, List.cons_append, List.append_assoc, scan_punctuation rfl, scan_quoted,
        List.cons_append, scan_punctuation rfl, List.append_assoc,
        scan_chars _ (delimited_fieldsChars fs rest) v hv, scan_fieldsChars _ rest fs hfs,
        Value.tokens, String.ofList_toList]
      simp

/-- The tokens of the items after the first one. -/
theorem scan_itemsChars {width : Nat} (done : List Token) (rest : List Char) :
    ∀ vs : List Value, ItemsPlain width vs →
      scan width done .gap (itemsChars vs ++ rest) =
        scan width ((itemsTokens vs).reverse ++ done) .gap rest
  | [], _ => by
      rw [itemsChars, itemsTokens]
      exact scan_punctuation rfl done rest
  | v :: vs, h => by
      rw [ItemsPlain] at h
      obtain ⟨hv, hvs⟩ := h
      rw [itemsChars, List.cons_append, List.append_assoc, scan_punctuation rfl,
        scan_chars _ (delimited_itemsChars vs rest) v hv, scan_itemsChars _ rest vs hvs,
        itemsTokens]
      simp

/-- The tokens of the fields after the first one. -/
theorem scan_fieldsChars {width : Nat} (done : List Token) (rest : List Char) :
    ∀ fs : List (String × Value), FieldsPlain width fs →
      scan width done .gap (fieldsChars fs ++ rest) =
        scan width ((fieldsTokens fs).reverse ++ done) .gap rest
  | [], _ => by
      rw [fieldsChars, fieldsTokens]
      exact scan_punctuation rfl done rest
  | (n, v) :: fs, h => by
      rw [FieldsPlain] at h
      obtain ⟨hv, hfs⟩ := h
      rw [fieldsChars, List.cons_append, List.append_assoc, scan_punctuation rfl, scan_quoted,
        List.cons_append, scan_punctuation rfl, List.append_assoc,
        scan_chars _ (delimited_fieldsChars fs rest) v hv, scan_fieldsChars _ rest fs hfs,
        fieldsTokens, String.ofList_toList]
      simp

end

end QuizHall.Json
