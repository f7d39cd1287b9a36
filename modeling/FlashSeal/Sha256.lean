/-
FlashSeal.Sha256 — the SHA-256 digest of a byte string.

The message is padded to whole blocks of sixteen big-endian words; each block stretches to
sixty-four schedule words, which stir a state of eight words one after another.  Nothing else in
the library looks inside: a digest is a function from byte strings to 32 bytes.
-/
import FlashSeal.Bytes.Digest

namespace FlashSeal

namespace Sha256

/-! ## Words -/

/-- The word turned right by `k` bits. -/
def rotate (w k : UInt32) : UInt32 := (w >>> k) ||| (w <<< (32 - k))

/-- The four bytes of a word, most significant first. -/
def wordBytes (w : UInt32) : Bytes :=
  [(w >>> 24).toUInt8, (w >>> 16).toUInt8, (w >>> 8).toUInt8, w.toUInt8]

/-- Reads big-endian words; fewer than four bytes at the end are no word. -/
def words : Bytes → List UInt32
  | a :: b :: c :: d :: rest =>
    ((a.toUInt32 <<< 24) ||| (b.toUInt32 <<< 16) ||| (c.toUInt32 <<< 8) ||| d.toUInt32)
      :: words rest
  | _ => []

/-- The round constants: the first 32 bits of the fractional parts of the cube roots of the first
64 primes. -/
def roundConstants : List UInt32 :=
  [0x428a2f98, 0x71374491, 0xb5c0fbcf, 0xe9b5dba5, 0x3956c25b, 0x59f111f1, 0x923f82a4, 0xab1c5ed5,
   0xd807aa98, 0x12835b01, 0x243185be, 0x550c7dc3, 0x72be5d74, 0x80deb1fe, 0x9bdc06a7, 0xc19bf174,
   0xe49b69c1, 0xefbe4786, 0x0fc19dc6, 0x240ca1cc, 0x2de92c6f, 0x4a7484aa, 0x5cb0a9dc, 0x76f988da,
   0x983e5152, 0xa831c66d, 0xb00327c8, 0xbf597fc7, 0xc6e00bf3, 0xd5a79147, 0x06ca6351, 0x14292967,
   0x27b70a85, 0x2e1b2138, 0x4d2c6dfc, 0x53380d13, 0x650a7354, 0x766a0abb, 0x81c2c92e, 0x92722c85,
   0xa2bfe8a1, 0xa81a664b, 0xc24b8b70, 0xc76c51a3, 0xd192e819, 0xd6990624, 0xf40e3585, 0x106aa070,
   0x19a4c116, 0x1e376c08, 0x2748774c, 0x34b0bcb5, 0x391c0cb3, 0x4ed8aa4a, 0x5b9cca4f, 0x682e6ff3,
   0x748f82ee, 0x78a5636f, 0x84c87814, 0x8cc70208, 0x90befffa, 0xa4506ceb, 0xbef9a3f7, 0xc67178f2]

/-! ## One block -/

/-- The eight words that a message stirs. -/
structure State where
  a : UInt32
  b : UInt32
  c : UInt32
  d : UInt32
  e : UInt32
  f : UInt32
  g : UInt32
  h : UInt32

/-- The state before the first block: the first 32 bits of the fractional parts of the square
roots of the first eight primes. -/
def State.start : State :=
  ⟨0x6a09e667, 0xbb67ae85, 0x3c6ef372, 0xa54ff53a, 0x510e527f, 0x9b05688c, 0x1f83d9ab, 0x5be0cd19⟩

/-- Adds two states word by word. -/
def State.add (s t : State) : State :=
  ⟨s.a + t.a, s.b + t.b, s.c + t.c, s.d + t.d, s.e + t.e, s.f + t.f, s.g + t.g, s.h + t.h⟩

/-- One round with the sum of its constant and its schedule word. -/
def State.round (s : State) (kw : UInt32) : State :=
  let choice := (s.e &&& s.f) ^^^ (~~~s.e &&& s.g)
  let majority := (s.a &&& s.b) ^^^ (s.a &&& s.c) ^^^ (s.b &&& s.c)
  let t1 := s.h + (rotate s.e 6 ^^^ rotate s.e 11 ^^^ rotate s.e 25) + choice + kw
  let t2 := (rotate s.a 2 ^^^ rotate s.a 13 ^^^ rotate s.a 22) + majority
  ⟨t1 + t2, s.a, s.b, s.c, s.d + t1, s.e, s.f, s.g⟩

/-- The schedule word that follows a window of sixteen. -/
def nextWord (window : List UInt32) : UInt32 :=
  let w1 := window.getD 1 0
  let w14 := window.getD 14 0
  window.getD 0 0 + (rotate w1 7 ^^^ rotate w1 18 ^^^ (w1 >>> 3)) + window.getD 9 0
    + (rotate w14 17 ^^^ rotate w14 19 ^^^ (w14 >>> 10))

/-- Takes one round for each constant, sliding the window of schedule words along. -/
def stir (s : State) (window : List UInt32) : List UInt32 → State
  | [] => s
  | k :: ks => stir (s.round (k + window.headD 0)) (window.tail ++ [nextWord window]) ks

/-- The state after one more block of sixteen words. -/
def State.absorb (s : State) (block : List UInt32) : State := s.add (stir s block roundConstants)

/-! ## The whole message -/

/-- The message with a set bit, zero bits and its 64-bit length behind it: whole blocks. -/
def padded (message : Bytes) : Bytes :=
  let bits := 8 * message.length
  message ++ 0x80 :: zeroes ((119 - message.length % 64) % 64)
    ++ wordBytes (UInt32.ofNat (bits / UInt32.size)) ++ wordBytes (UInt32.ofNat bits)

/-- Cuts `n` blocks of sixteen words. -/
def blocks : Nat → List UInt32 → List (List UInt32)
  | 0, _ => []
  | n + 1, ws => ws.take 16 :: blocks n (ws.drop 16)

/-- The state as bytes. -/
def State.bytes (s : State) : Bytes :=
  wordBytes s.a ++ wordBytes s.b ++ wordBytes s.c ++ wordBytes s.d
    ++ wordBytes s.e ++ wordBytes s.f ++ wordBytes s.g ++ wordBytes s.h

theorem State.length_bytes (s : State) : s.bytes.length = digestLength := rfl

end Sha256

/-- The SHA-256 digest of a message. -/
def sha256 (message : Bytes) : Digest :=
  let ws := Sha256.words (Sha256.padded message)
  let last := (Sha256.blocks (ws.length / 16) ws).foldl Sha256.State.absorb Sha256.State.start
  ⟨last.bytes, last.length_bytes⟩

end FlashSeal
