import Mathlib.Logic.ExistsUnique
import QuizHall.Hall.Schedule

/-!
# The Ids of Numbers

Quizzes and buckets are found under ids that are derived from numbers of 64 bits. If the hash
function tells byte strings of eight bytes apart, then ids tell numbers apart. This module says
which numbers have an id and when two of them have the same one.

What comes before hashing loses nothing: the numbers of 64 bits and the strings of eight bytes
belong to each other, one to one. So whether two ids can coincide is a question about the hash
function alone.

## Main results

* `encodeU64_ofLittleEndian`: every string of eight bytes is the encoding of a number.
* `Rules.derive_eq_ok_iff`: just the numbers of 64 bits have an id.
* `Rules.idOf_inj`: different numbers have different ids, if the hash function separates.
* `ids_tell_numbers_apart`: encoding is exact, and the ids of quizzes and buckets are as good as the
  hash function.
-/

namespace QuizHall

-- Powers are those of the core library, whatever else is imported.
attribute [local instance (2000)] instPowNat

/-- A hash function **separates** the encodings of numbers if it gives different digests for
different strings of eight bytes. -/
def HashService.Separates (hash : HashService) : Prop :=
  ∀ a b : List UInt8, a.length = 8 → b.length = 8 → hash a = hash b → a = b

/-- The digest that has one character for every byte. -/
def asCharacters : HashService := fun bytes =>
  String.ofList (bytes.map fun b => Char.ofNat b.toNat)

/-- Byte strings can be told apart by their characters. -/
theorem separates_asCharacters : asCharacters.Separates := by
  intro a b _ _ h
  have hlist := congrArg String.toList h
  rw [asCharacters, asCharacters, String.toList_ofList, String.toList_ofList] at hlist
  refine (List.map_inj_right fun x y hxy => ?_).mp hlist
  have hcode (b : UInt8) : (Char.ofNat b.toNat).toNat = b.toNat := by
    have hvalid : b.toNat.isValidChar := .inl (Nat.lt_trans b.toNat_lt (by decide))
    rw [Char.ofNat, dif_pos hvalid]
    rfl
  have hnat := congrArg Char.toNat hxy
  rw [hcode, hcode] at hnat
  exact UInt8.toNat_inj.mp hnat

/-- A number that can be written with 64 bits and without a sign. -/
def IsU64 (n : Int) : Prop := 0 ≤ n ∧ n ≤ (u64Max : Int)

instance (n : Int) : Decidable (IsU64 n) := inferInstanceAs (Decidable (_ ∧ _))

/-! ### The bytes of a number -/

/-- A number of 64 bits is encoded. -/
theorem encodeU64_of_isU64 {n : Int} (h : IsU64 n) : encodeU64 n = .ok (littleEndian 8 n.toNat) :=
  if_pos h

/-- No other number is encoded. -/
theorem encodeU64_of_not_isU64 {n : Int} (h : ¬ IsU64 n) : encodeU64 n = .error (.beyondU64 n) :=
  if_neg h

/-- An encoding has eight bytes, and they write the number. -/
theorem ofLittleEndian_of_encodeU64 {n : Int} {bytes : List UInt8}
    (h : encodeU64 n = .ok bytes) : bytes.length = 8 ∧ (ofLittleEndian bytes : Int) = n := by
  obtain ⟨⟨hmin, hmax⟩, rfl⟩ := encodeU64_eq_ok_iff.mp h
  rw [u64Max] at hmax
  refine ⟨length_littleEndian 8 _, ?_⟩
  rw [ofLittleEndian_littleEndian, Nat.mod_eq_of_lt (by omega)]
  exact Int.toNat_of_nonneg hmin

/-- **Every string of eight bytes is the encoding of a number**, namely of the one it writes. -/
theorem encodeU64_ofLittleEndian {bytes : List UInt8} (h : bytes.length = 8) :
    encodeU64 (ofLittleEndian bytes) = .ok bytes := by
  have hlt := ofLittleEndian_lt bytes
  have hbytes := littleEndian_ofLittleEndian bytes
  rw [h] at hlt hbytes
  have hn : IsU64 (ofLittleEndian bytes) := by
    rw [IsU64, u64Max]
    omega
  rw [encodeU64_of_isU64 hn, Int.toNat_natCast, hbytes]

/-- That a number is beyond 64 bits makes it a bad value, however long it is. -/
theorem kind_beyondU64 (n : Int) : (Fault.beyondU64 n).kind = .badValue := ite_self _

namespace Rules

/-- The id of a number of 64 bits. -/
def idOf (rules : Rules) (n : Int) : String := rules.hash (littleEndian 8 n.toNat)

variable {rules : Rules} {m n : Int} {id : String}

/-- A number of 64 bits has an id. -/
theorem derive_of_isU64 (h : IsU64 n) : rules.derive n = .ok (rules.idOf n) := by
  rw [derive, Deriver.ofHash, encodeU64_of_isU64 h]
  rfl

/-- No other number has an id. -/
theorem derive_of_not_isU64 (h : ¬ IsU64 n) : rules.derive n = .error (.beyondU64 n) := by
  rw [derive, Deriver.ofHash, encodeU64_of_not_isU64 h]
  rfl

/-- **Just the numbers of 64 bits have an id.** -/
theorem derive_eq_ok_iff : rules.derive n = .ok id ↔ IsU64 n ∧ id = rules.idOf n := by
  constructor
  · intro h
    by_cases hn : IsU64 n
    · rw [derive_of_isU64 hn] at h
      exact ⟨hn, (Except.ok.inj h).symm⟩
    · rw [derive_of_not_isU64 hn] at h
      cases h
  · rintro ⟨hn, rfl⟩
    exact derive_of_isU64 hn

/-- A number whose derivation fails is none of 64 bits. -/
theorem not_isU64_of_derive {e : Fault} (h : rules.derive n = .error e) : ¬ IsU64 n := by
  intro hn
  rw [derive_of_isU64 hn] at h
  cases h

/-- A number whose derivation fails is told to be beyond 64 bits. -/
theorem eq_beyondU64_of_derive {e : Fault} (h : rules.derive n = .error e) : e = .beyondU64 n :=
  Except.error.inj (h.symm.trans (derive_of_not_isU64 (not_isU64_of_derive h)))

/-- **Different numbers have different ids**, if the hash function separates their encodings. -/
theorem idOf_inj (hsep : rules.hash.Separates) (hm : IsU64 m) (hn : IsU64 n)
    (h : rules.idOf m = rules.idOf n) : m = n := by
  have hbytes : littleEndian 8 m.toNat = littleEndian 8 n.toNat :=
    hsep _ _ (length_littleEndian 8 _) (length_littleEndian 8 _) h
  have hnat := congrArg ofLittleEndian hbytes
  rw [ofLittleEndian_littleEndian, ofLittleEndian_littleEndian] at hnat
  obtain ⟨hm₀, hm₁⟩ := hm
  obtain ⟨hn₀, hn₁⟩ := hn
  rw [u64Max] at hm₁ hn₁
  omega

/-- Numbers have the same id just if they are the same. -/
theorem idOf_inj_iff (hsep : rules.hash.Separates) (hm : IsU64 m) (hn : IsU64 n) :
    rules.idOf m = rules.idOf n ↔ m = n :=
  ⟨idOf_inj hsep hm hn, congrArg rules.idOf⟩

end Rules

/-- **Ids tell numbers apart as well as the hash function does.** Just the numbers of 64 bits are
encoded. An encoding has eight bytes, which write the number, and every string of eight bytes
encodes one number and no other.

The bucket of a tick has the id that a quiz of the same number has. A number of more than 64 bits
has no id, and to ask for one is a bad value. If the hash function separates strings of eight bytes,
then different numbers of 64 bits have different ids. -/
theorem ids_tell_numbers_apart :
    (∀ n : Int, (∃ bytes, encodeU64 n = .ok bytes) ↔ 0 ≤ n ∧ n ≤ 2 ^ (64 : Nat) - 1) ∧
    (∀ (n : Int) bytes, encodeU64 n = .ok bytes →
      bytes.length = 8 ∧ (ofLittleEndian bytes : Int) = n) ∧
    (∀ bytes : List UInt8, bytes.length = 8 → ∃! n : Int, encodeU64 n = .ok bytes) ∧
    ∀ rules : Rules,
      (∀ n, rules.schedule.derive n = rules.derive n) ∧
      (∀ n, ¬ IsU64 n → ∃ fault, rules.derive n = .error fault ∧ fault.kind = .badValue) ∧
      (rules.hash.Separates → ∀ m n, IsU64 m → IsU64 n →
        ∃ id id', rules.derive m = .ok id ∧ rules.derive n = .ok id' ∧ (id = id' → m = n)) := by
  refine ⟨fun n => ?_, fun n bytes h => ofLittleEndian_of_encodeU64 h, fun bytes h => ?_,
    fun rules => ⟨fun n => rfl, fun n hn => ?_, fun hsep m n hm hn => ?_⟩⟩
  · have hrange : IsU64 n ↔ 0 ≤ n ∧ n ≤ 2 ^ (64 : Nat) - 1 := by
      rw [IsU64, u64Max]
      omega
    rw [← hrange]
    constructor
    · rintro ⟨bytes, h⟩
      exact (encodeU64_eq_ok_iff.mp h).1
    · exact fun hn => ⟨_, encodeU64_of_isU64 hn⟩
  · refine ⟨ofLittleEndian bytes, encodeU64_ofLittleEndian h, fun n hn => ?_⟩
    exact (ofLittleEndian_of_encodeU64 hn).2.symm
  · exact ⟨_, Rules.derive_of_not_isU64 hn, kind_beyondU64 n⟩
  · exact ⟨_, _, Rules.derive_of_isU64 hm, Rules.derive_of_isU64 hn, Rules.idOf_inj hsep hm hn⟩

/-- Eight full bytes encode one number. The number after the greatest one has no id, and the least
and the greatest one have different ids where bytes are told apart by their characters. -/
theorem ids_tell_numbers_apart_at_the_ends :
    let rules := Rules.ofSettings default asCharacters true
    (List.replicate 8 (255 : UInt8)).length = 8 ∧
    (∃! n : Int, encodeU64 n = .ok (List.replicate 8 255)) ∧
    (∃ fault, rules.derive (2 ^ (64 : Nat)) = .error fault ∧ fault.kind = .badValue) ∧
    rules.hash.Separates ∧ IsU64 0 ∧ IsU64 (2 ^ (64 : Nat) - 1) ∧
    ∃ id id', rules.derive 0 = .ok id ∧ rules.derive (2 ^ (64 : Nat) - 1) = .ok id' ∧ id ≠ id' := by
  intro rules
  obtain ⟨-, -, hbytes, hrules⟩ := ids_tell_numbers_apart
  obtain ⟨-, hbeyond, hapart⟩ := hrules rules
  have hsep : rules.hash.Separates := separates_asCharacters
  have hleast : IsU64 0 := by decide
  have hgreatest : IsU64 (2 ^ (64 : Nat) - 1) := by decide
  obtain ⟨id, id', hid, hid', hne⟩ := hapart hsep 0 (2 ^ (64 : Nat) - 1) hleast hgreatest
  refine ⟨rfl, hbytes _ rfl, hbeyond _ (by decide), hsep, hleast, hgreatest, id, id', hid, hid', ?_⟩
  exact fun heq => absurd (hne heq) (by decide)

end QuizHall
