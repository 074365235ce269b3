import QuizHall.Proofs.Store.Records
import QuizHall.Proofs.Text.Decimal

/-!
# Stored Integers and Ids

Ratings and the counter are stored in decimal, and buckets as lists of ids. This module shows that
both are read back. For an integer there is one condition: it may not have more digits than the
reader accepts.

## Main results

* `readInteger_text`: an integer that is not too long is read back from its text.
* `natAbs_lt_of_integer`: an integer that can be read is not too long.
* `readTexts_toUTF8`: the ids of a bucket are read back in their order.
-/

namespace QuizHall

/-! ### ASCII texts -/

/-- The bytes of a text of ASCII characters are the codes of its characters. -/
theorem toList_toUTF8_of_ascii {cs : List Char} (h : ∀ c ∈ cs, c.toNat < 128) :
    ((String.ofList cs).toUTF8.data.toList.map fun b => Char.ofNat b.toNat) = cs := by
  have hbytes : (String.ofList cs).toUTF8.data.toList = cs.flatMap String.utf8EncodeChar := by
    rw [String.toUTF8_eq_toByteArray, String.toByteArray_ofList, List.utf8Encode,
      List.toList_data_toByteArray]
  rw [hbytes]
  clear hbytes
  induction cs with
  | nil => rfl
  | cons c cs ih =>
      have hc : c.toNat < 128 := h c (by simp)
      have hle : c.val.toNat ≤ 0x7f := by
        change c.toNat ≤ 127
        omega
      have hchar : String.utf8EncodeChar c = [UInt8.ofNat c.toNat] := by
        rw [String.utf8EncodeChar]
        exact if_pos hle
      have hcode : (UInt8.ofNat c.toNat).toNat = c.toNat := by
        simp
        omega
      rw [List.flatMap_cons, hchar, List.singleton_append, List.map_cons, hcode,
        Char.ofNat_toNat, ih fun c' hc' => h c' (by simp [hc'])]

namespace Integer

/-- The text of an integer is ASCII, and nothing in it is blank. -/
theorem ascii_of_mem_chars {c : Char} {n : Int} (h : c ∈ chars n) :
    c.toNat < 128 ∧ Text.isAsciiBlank c = false := by
  have hplain : alphabet.all (fun c => c.toNat < 128 && !Text.isAsciiBlank c) = true := rfl
  simpa using List.all_eq_true.mp hplain c (mem_alphabet h)

/-- Without its sign the text of an integer is the text of its absolute value. -/
theorem dropSign_chars (n : Int) : dropSign (chars n) = digits n.natAbs := by
  cases n with
  | negSucc n => rfl
  | ofNat n =>
      change dropSign (digits n) = digits n
      rw [dropSign]
      · exact digits_ne_cons rfl n
      · exact digits_ne_cons rfl n

/-- No more digits are counted than there are. -/
theorem countDigits_chars_le (n : Int) : countDigits (chars n) ≤ (digits n.natAbs).length := by
  simp only [countDigits, dropSign_chars]
  split
  · exact (List.length_filter_le _ _).trans (List.takeWhile_sublist _).length_le
  · exact Nat.zero_le _

end Integer

namespace KeySpace

/-- **An integer that is not too long is read back** from its text. -/
theorem readInteger_text {n : Int} (h : n.natAbs < Fault.unwritable) :
    readInteger (Integer.text n).toUTF8 = .ok n := by
  have hchars := toList_toUTF8_of_ascii
    fun c (hc : c ∈ Integer.chars n) => (Integer.ascii_of_mem_chars hc).1
  have hblank : ∀ c ∈ Integer.chars n, Text.isAsciiBlank c = false :=
    fun c hc => (Integer.ascii_of_mem_chars hc).2
  have htrim : Text.trim Text.isAsciiBlank (Integer.chars n) = Integer.chars n :=
    Text.trim_eq_self (fun c hc => hblank c (List.mem_of_mem_head? hc))
      (fun c hc => hblank c (List.mem_of_getLast? hc))
  have hdigits : (Integer.digits n.natAbs).length ≤ Fault.maxDigits :=
    Integer.length_digits_le (by decide) h
  have hcount : ¬ Fault.maxDigits < Integer.countDigits (Integer.chars n) := by
    have := Integer.countDigits_chars_le n
    omega
  simp only [readInteger, Integer.text, hchars, htrim, hcount, ↓reduceIte, Integer.read_chars]

/-- An integer that can be read is short enough to be written again. -/
theorem natAbs_lt_of_readInteger {data : ByteArray} {n : Int} (h : readInteger data = .ok n) :
    n.natAbs < Fault.unwritable := by
  rw [readInteger] at h
  split at h
  · cases h
  · next hcount =>
    split at h
    · next m hread =>
      obtain rfl := Except.ok.inj h
      calc m.natAbs < _ := Integer.natAbs_lt_of_read hread
        _ ≤ Fault.unwritable := Nat.pow_le_pow_right (by decide) (by omega)
    · cases h

/-- A slot that holds the text of an integer is read as that integer. -/
theorem integer_ofText {ks : KeySpace} {name : String} {n : Int}
    (hfind : ks.find? name = some (Entry.ofText (Integer.text n)))
    (h : n.natAbs < Fault.unwritable) : ks.integer name = .ok n := by
  rw [integer, bytes?_ofText hfind]
  exact readInteger_text h

/-- Whatever is under a name, an integer that is read from there is short enough to be written. -/
theorem natAbs_lt_of_integer {ks : KeySpace} {name : String} {n : Int}
    (h : ks.integer name = .ok n) : n.natAbs < Fault.unwritable := by
  rw [integer] at h
  cases hbytes : ks.bytes? name with
  | error e =>
      rw [hbytes] at h
      cases h
  | ok data? =>
      rw [hbytes] at h
      cases data? with
      | none =>
          obtain rfl := Except.ok.inj h
          exact Fault.lt_unwritable (by decide)
      | some data => exact natAbs_lt_of_readInteger h

/-- An empty slot is read as zero. -/
theorem integer_of_none {ks : KeySpace} {name : String} (hfind : ks.find? name = none) :
    ks.integer name = .ok 0 := by
  rw [integer, bytes?, hfind]
  rfl

/-- **The ids of a bucket are read back** in their order. -/
theorem readTexts_toUTF8 (ids : List String) : readTexts (ids.map String.toUTF8) = .ok ids := by
  induction ids with
  | nil => rfl
  | cons id ids ih =>
      rw [List.map_cons, readTexts, fromUTF8?_toUTF8, ih]
      rfl

/-- A slot that holds a list of ids is read as that list. -/
theorem bucket_of_list {ks : KeySpace} {id : String} {ids : List String}
    (hfind : ks.find? (Key.bucket id) = some (.list (ids.map String.toUTF8))) :
    ks.bucket id = .ok ids := by
  rw [bucket, items, hfind]
  exact readTexts_toUTF8 ids

/-- The ids in a bucket are what its list of byte strings is read as. -/
theorem items_of_bucket {ks : KeySpace} {id : String} {ids : List String}
    (h : ks.bucket id = .ok ids) :
    ∃ items, ks.items (Key.bucket id) = .ok items ∧ readTexts items = .ok ids := by
  rw [bucket] at h
  cases hitems : ks.items (Key.bucket id) with
  | error e =>
      rw [hitems] at h
      cases h
  | ok items =>
      rw [hitems] at h
      exact ⟨items, rfl, h⟩

/-- An empty slot is read as a bucket without ids. -/
theorem bucket_of_none {ks : KeySpace} {id : String} (hfind : ks.find? (Key.bucket id) = none) :
    ks.bucket id = .ok [] := by
  rw [bucket, items, hfind]
  rfl

end KeySpace

end QuizHall
