/-
FlashSeal.Bytes.Digest — a 32-byte digest, as it stands in the hash field of a region.

The length is part of the type, so writing a digest over a 32-byte field never moves a byte.
-/
import FlashSeal.Bytes

namespace FlashSeal

/-- The number of bytes of a digest. -/
def digestLength : Nat := 32

/-- A string of exactly 32 bytes. -/
structure Digest where
  bytes : Bytes
  length_bytes : bytes.length = digestLength
  deriving DecidableEq

namespace Digest

/-- The digest with these bytes, if there are 32 of them. -/
def ofBytes? (bs : Bytes) : Option Digest :=
  if h : bs.length = digestLength then some ⟨bs, h⟩ else none

/-- The placeholder that stands in a region before its image was hashed. -/
def zero : Digest := ⟨zeroes digestLength, by simp [zeroes]⟩

theorem ofBytes?_eq_some_iff {bs : Bytes} {d : Digest} : ofBytes? bs = some d ↔ d.bytes = bs := by
  unfold ofBytes?
  split
  · constructor
    · rintro ⟨rfl⟩; rfl
    · rintro rfl; rfl
  · next h =>
    constructor
    · simp
    · rintro rfl; exact absurd d.length_bytes h

end Digest

end FlashSeal
