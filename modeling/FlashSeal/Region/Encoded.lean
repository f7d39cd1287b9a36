/-
FlashSeal.Region.Encoded — a region as bytes, ready to be placed.

A region is a header, one record for each area in the order given, a hash record whose digest is
still zero, and a footer.  They are written one behind another into a buffer, and an area that has no
record, or a length that the footer cannot hold, ends the work.  A region is given whole or not at all.
-/
import FlashSeal.Region.Record

namespace FlashSeal

/-- A region that was written and not yet placed. -/
structure Encoded where
  bytes : Bytes
  /-- Where the digest stands among them. -/
  hashOffset : Nat
  deriving DecidableEq, Repr

namespace Encoded

/-- The number of bytes. -/
def length (e : Encoded) : Nat := e.bytes.length

/-- Whether there is no byte. -/
def isEmpty (e : Encoded) : Bool := e.bytes.isEmpty

/-- Writes the record of an area, if it has one. -/
def writeArea (a : Area) : Work Buffer RegionError Unit := do
  let record ← Work.ofExcept (AreaRecord.ofArea a)
  record.writeTo

/-- Writes the region that describes these areas, in this order, and gives where its digest stands in
the buffer. -/
def writeAreas (areas : List Area) : Work Buffer RegionError Nat := do
  Header.current.writeTo
  areas.forM writeArea
  (HashRecord.ofDigest .zero).writeTo
  let length := (← get).size
  let footer ← Work.ofExcept (Footer.behind length)
  footer.writeTo
  return length - digestLength

/-- The region that describes these areas, in this order. -/
def ofAreas (areas : List Area) : Except RegionError Encoded :=
  let (outcome, buf) := (writeAreas areas).on #[]
  outcome.map fun hashOffset => ⟨buf.toList, hashOffset⟩

end Encoded

end FlashSeal
