import QuizHall.Digest.Blake2b
import QuizHall.Digest.Sha256
import QuizHall.Fault

/-!
# Identifiers

Quizzes are kept under ids derived from their numbers, and buckets under ids derived from the
ticks at which they fall due. Both are the digest of the number as eight little-endian bytes, so
the same number always gives the same id.

## Main definitions

* `littleEndian`, `ofLittleEndian`: numbers as bytes, and back.
* `encodeU64`: the eight bytes of a number, if it fits.
* `HashService`, `Deriver`, `Deriver.ofHash`: ids from numbers.
* `HashAlgorithm`: the hash functions to choose from.

## Main results

* `ofLittleEndian_littleEndian`: the bytes of a number give it back, up to their width.
* `littleEndian_ofLittleEndian`: bytes are those of the number that they write.
* `encodeU64_eq_ok_iff`: which numbers are encoded, and as what.
-/

namespace QuizHall

-- Powers are those of the core library, whatever else is imported.
attribute [local instance (2000)] instPowNat

/-! ### Numbers as bytes -/

/-- A number as `width` bytes, the least significant one first. -/
def littleEndian : (width : Nat) → Nat → List UInt8
  | 0, _ => []
  | width + 1, n => UInt8.ofNat (n % 256) :: littleEndian width (n / 256)

/-- The number that bytes write, the least significant one first. -/
def ofLittleEndian : List UInt8 → Nat
  | [] => 0
  | b :: r => b.toNat + 256 * ofLittleEndian r

theorem length_littleEndian (width n : Nat) : (littleEndian width n).length = width := by
  induction width generalizing n with
  | zero => rfl
  | succ width ih => simp [littleEndian, ih]

/-- The bytes of a number give it back, up to their width. -/
theorem ofLittleEndian_littleEndian (width n : Nat) :
    ofLittleEndian (littleEndian width n) = n % 256 ^ width := by
  induction width generalizing n with
  | zero => simp [littleEndian, ofLittleEndian, Nat.mod_one]
  | succ width ih =>
    have hb : (UInt8.ofNat (n % 256)).toNat = n % 256 := by
      simp
    rw [littleEndian, ofLittleEndian, ih, hb, Nat.pow_succ, Nat.mul_comm (256 ^ width) 256,
      Nat.mod_mul]

/-- A number has no more bytes than write it. -/
theorem ofLittleEndian_lt (bytes : List UInt8) : ofLittleEndian bytes < 256 ^ bytes.length := by
  induction bytes with
  | nil => decide
  | cons b r ih =>
    have hb : b.toNat < 256 := b.toNat_lt
    rw [ofLittleEndian, List.length_cons, Nat.pow_succ]
    omega

/-- Bytes are those of the number that they write. -/
theorem littleEndian_ofLittleEndian (bytes : List UInt8) :
    littleEndian bytes.length (ofLittleEndian bytes) = bytes := by
  induction bytes with
  | nil => rfl
  | cons b r ih =>
    have hb : b.toNat < 256 := b.toNat_lt
    have hlow : (b.toNat + 256 * ofLittleEndian r) % 256 = b.toNat := by omega
    have hrest : (b.toNat + 256 * ofLittleEndian r) / 256 = ofLittleEndian r := by omega
    rw [List.length_cons, ofLittleEndian, littleEndian, hlow, hrest, ih, UInt8.ofNat_toNat]

/-- The greatest number of 64 bits. -/
def u64Max : Nat := 2 ^ (64 : Nat) - 1

/-- The eight bytes of a number from 0 to `u64Max`. -/
def encodeU64 (value : Int) : Except Fault (List UInt8) :=
  if 0 ≤ value ∧ value ≤ u64Max then .ok (littleEndian 8 value.toNat)
  else .error (.beyondU64 value)

theorem encodeU64_eq_ok_iff {value : Int} {bytes : List UInt8} :
    encodeU64 value = .ok bytes ↔
      (0 ≤ value ∧ value ≤ u64Max) ∧ bytes = littleEndian 8 value.toNat := by
  unfold encodeU64
  split
  · next h => simp [h, eq_comm]
  · next h => simp [h]

/-! ### Deriving ids -/

/-- A hash function, with its digest written as text. -/
abbrev HashService := List UInt8 → String

/-- How an id is derived from the number of a quiz or of a tick. -/
abbrev Deriver := Int → Except Fault String

/-- The id of a number is the digest of its eight bytes. -/
def Deriver.ofHash (hash : HashService) : Deriver := fun n => (encodeU64 n).map hash

/-- The hash functions to choose from. -/
inductive HashAlgorithm where
  /-- BLAKE2b with a digest of a number of bytes. -/
  | blake2b (size : Nat)
  /-- SHA-256. -/
  | sha256
  deriving DecidableEq

namespace HashAlgorithm

/-- Whether the hash function exists: a BLAKE2b digest has 1 to 64 bytes. -/
def exists? : HashAlgorithm → Bool
  | blake2b size => decide (1 ≤ size ∧ size ≤ 64)
  | sha256 => true

/-- The digest in hexadecimal. -/
def hash : HashAlgorithm → HashService
  | blake2b size, bytes => Hex.encode (Blake2b.digest size bytes)
  | sha256, bytes => Hex.encode (Sha256.digest bytes)

/-- The digest in hexadecimal, if the hash function exists. -/
def hash? (a : HashAlgorithm) (bytes : List UInt8) : Except Fault String :=
  if a.exists? then .ok (a.hash bytes) else .error .digestSize

/-- Ids by the hash function, if it exists. -/
def deriver (a : HashAlgorithm) : Deriver := fun n => (encodeU64 n).bind a.hash?

/-- The hash function that ids are derived with by default. -/
def standard : HashAlgorithm := blake2b 32

end HashAlgorithm

end QuizHall
