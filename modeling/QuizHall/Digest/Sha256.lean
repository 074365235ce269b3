import QuizHall.Digest.Hex

/-!
# SHA-256

The message is filled up to whole blocks of 64 bytes with a one bit, zeros and its length in
bits; a state of eight words takes in the blocks one after the other.

## Main definitions

* `Sha256.pad`: the message filled up to whole blocks.
* `Sha256.compress`: one block mixed into the state.
* `Sha256.digest`: the 32 bytes of the digest.
-/

namespace QuizHall.Sha256

/-- How many words the state holds. -/
abbrev stateSize : Nat := 8

/-- How many words of the message schedule a window of it holds. -/
abbrev windowSize : Nat := 16

/-- The eight words of the initial state. -/
def initial : Vector UInt32 stateSize :=
  #v[0x6a09e667, 0xbb67ae85, 0x3c6ef372, 0xa54ff53a,
     0x510e527f, 0x9b05688c, 0x1f83d9ab, 0x5be0cd19]

/-- The constant of each of the 64 rounds. -/
def constants : List UInt32 :=
  [0x428a2f98, 0x71374491, 0xb5c0fbcf, 0xe9b5dba5, 0x3956c25b, 0x59f111f1, 0x923f82a4, 0xab1c5ed5,
   0xd807aa98, 0x12835b01, 0x243185be, 0x550c7dc3, 0x72be5d74, 0x80deb1fe, 0x9bdc06a7, 0xc19bf174,
   0xe49b69c1, 0xefbe4786, 0x0fc19dc6, 0x240ca1cc, 0x2de92c6f, 0x4a7484aa, 0x5cb0a9dc, 0x76f988da,
   0x983e5152, 0xa831c66d, 0xb00327c8, 0xbf597fc7, 0xc6e00bf3, 0xd5a79147, 0x06ca6351, 0x14292967,
   0x27b70a85, 0x2e1b2138, 0x4d2c6dfc, 0x53380d13, 0x650a7354, 0x766a0abb, 0x81c2c92e, 0x92722c85,
   0xa2bfe8a1, 0xa81a664b, 0xc24b8b70, 0xc76c51a3, 0xd192e819, 0xd6990624, 0xf40e3585, 0x106aa070,
   0x19a4c116, 0x1e376c08, 0x2748774c, 0x34b0bcb5, 0x391c0cb3, 0x4ed8aa4a, 0x5b9cca4f, 0x682e6ff3,
   0x748f82ee, 0x78a5636f, 0x84c87814, 0x8cc70208, 0x90befffa, 0xa4506ceb, 0xbef9a3f7, 0xc67178f2]

/-- A word turned right by `n` bits, for `n` from 1 to 31. -/
def rotateRight (x n : UInt32) : UInt32 := (x >>> n) ||| (x <<< (32 - n))

/-- The word that bytes write, the most significant one first. -/
def wordOfBytes (bytes : List UInt8) : UInt32 :=
  bytes.foldl (fun w b => (w <<< 8) ||| b.toUInt32) 0

/-- The four bytes of a word, the most significant one first. -/
def bytesOfWord (w : UInt32) : List UInt8 :=
  [(w >>> 24).toUInt8, (w >>> 16).toUInt8, (w >>> 8).toUInt8, w.toUInt8]

/-- The word that follows a window of the message schedule. -/
def nextWord (w : Vector UInt32 windowSize) : UInt32 :=
  let s0 := rotateRight w[1] 7 ^^^ rotateRight w[1] 18 ^^^ (w[1] >>> 3)
  let s1 := rotateRight w[14] 17 ^^^ rotateRight w[14] 19 ^^^ (w[14] >>> 10)
  w[0] + s0 + w[9] + s1

/-- The window moved on by one word. -/
def slide (w : Vector UInt32 windowSize) : Vector UInt32 windowSize :=
  Vector.ofFn fun i => if h : i.val + 1 < windowSize then w[i.val + 1] else nextWord w

/-- One round, with the round constant `k` and the first word of the window. -/
def round (sw : Vector UInt32 stateSize × Vector UInt32 windowSize) (k : UInt32) :
    Vector UInt32 stateSize × Vector UInt32 windowSize :=
  let s := sw.1
  let s1 := rotateRight s[4] 6 ^^^ rotateRight s[4] 11 ^^^ rotateRight s[4] 25
  let choice := (s[4] &&& s[5]) ^^^ ((~~~ s[4]) &&& s[6])
  let t1 := s[7] + s1 + choice + k + sw.2[0]
  let s0 := rotateRight s[0] 2 ^^^ rotateRight s[0] 13 ^^^ rotateRight s[0] 22
  let majority := (s[0] &&& s[1]) ^^^ (s[0] &&& s[2]) ^^^ (s[1] &&& s[2])
  (#v[t1 + (s0 + majority), s[0], s[1], s[2], s[3] + t1, s[4], s[5], s[6]], slide sw.2)

/-- Mixes one block into the state. -/
def compress (h : Vector UInt32 stateSize) (block : List UInt8) : Vector UInt32 stateSize :=
  let window : Vector UInt32 windowSize := Vector.ofFn fun i => wordOfBytes (Hex.chunk 4 block i)
  let final := (constants.foldl round (h, window)).1
  Vector.ofFn fun i : Fin stateSize => h[i] + final[i]

/-- The message filled up to whole blocks. -/
def pad (message : List UInt8) : List UInt8 :=
  let zeros := (119 - message.length % 64) % 64
  let bits := message.length * 8
  let byte (i : Nat) : UInt8 := UInt8.ofNat (bits >>> (8 * (7 - i)))
  message ++ [0x80] ++ List.replicate zeros 0 ++ (List.range 8).map byte

/-- The 32 bytes of the digest. -/
def digest (message : List UInt8) : List UInt8 :=
  let padded := pad message
  let final := (List.range (padded.length / 64)).foldl
    (fun h i => compress h (Hex.chunk 64 padded i)) initial
  final.toList.flatMap bytesOfWord

end QuizHall.Sha256
