/-
FlashSeal.Seal — placing a region in an image and sealing the image with its hash.

Work on an image leaves an image behind whether it succeeds or not, so an `ImageOp` gives both the
outcome and the image left (`Work.on`).  The hash covers the whole image with its own 32 bytes read as zeroes:
`calcHash` clears the field, takes the digest and puts the field back.  The digest is SHA-256 where
no other function is given, and no operation depends on which function it is.
-/
import FlashSeal.Region.Encoded
import FlashSeal.Region.Search
import FlashSeal.Sha256

namespace FlashSeal

/-- Work on an image. -/
abbrev ImageOp := Work Bytes RegionError

/-! ## Hash -/

/-- The digest of the image with the 32 bytes at `offset` read as zeroes. -/
def calcHash (offset : Nat) (digest : Bytes → Digest := sha256) : ImageOp Digest := do
  let image ← get
  if offset + digestLength ≤ image.length then
    let field := (image.drop offset).take digestLength
    set (image.overwrite offset (zeroes digestLength))
    let hash := digest (← get)
    modify (·.overwrite offset field)
    return hash
  else
    throw (.hashOutOfRange offset image.length)

/-- Stores the digest of the image in the 32 bytes at `offset`. -/
def fillHash (offset : Nat) (digest : Bytes → Digest := sha256) : ImageOp Digest := do
  let hash ← calcHash offset digest
  modify (·.overwrite offset hash.bytes)
  return hash

/-- Whether the digest that a region stores is the digest of the image. -/
def verify (region : Region) (digest : Bytes → Digest := sha256) : ImageOp Bool := do
  let hash ← calcHash region.hashOffset digest
  return hash = region.hash

/-! ## Place -/

/-- The first byte of the image's window that was written since the last erase, with its
offset. -/
def firstWritten? (image : Bytes) (start stop : Nat) : Option (UInt8 × Nat) :=
  (((image.take stop).drop start).zipIdx start).find? fun (b, _) => b != erasedByte

/-- Writes a region over the erased end of the boot loader area and gives the offset of its hash
field. -/
def place (region : Encoded) (m : FlashMap) : ImageOp Nat := do
  let boot ← Work.ofExcept m.bootLoader
  if boot.size.toNat < region.length then
    throw (.regionTooLarge boot.size region.length)
  let image ← get
  let stop ← Work.ofExcept (boot.stopWithin image.length)
  let start := stop - region.length
  if (firstWritten? image start stop).isSome then
    throw (.spaceOccupied start)
  set (image.overwrite start region.bytes)
  return start + region.hashOffset

/-! ## Seal -/

/-- Where a region stands in an image, and the digest that seals it. -/
structure Placement where
  regionOffset : Nat
  regionLength : Nat
  hashOffset : Nat
  hash : Digest
  deriving DecidableEq

/-- Writes the region of a map into an image, places it and seals the image. -/
def embed (m : FlashMap) (digest : Bytes → Digest := sha256) : ImageOp Placement := do
  let region ← Work.ofExcept (Encoded.ofAreas m.emission)
  let hashOffset ← place region m
  let hash ← fillHash hashOffset digest
  return ⟨hashOffset - region.hashOffset, region.length, hashOffset, hash⟩

end FlashSeal
