/-
FlashSeal.Area — named areas of physical flash, and how two of them lie to each other.

Offsets and sizes are 32-bit words; an area's end is a plain number, so an area that reaches the
top of the address space has an end that no word could hold.
-/

namespace FlashSeal

/-- A named stretch of one flash device. -/
structure Area where
  /-- The name that keys the area in a flash map. -/
  name : String
  /-- The identity that the region records. -/
  id : UInt32
  device : UInt32
  /-- The offset of the first byte within the device. -/
  offset : UInt32
  size : UInt32
  deriving DecidableEq, Repr

namespace Area

/-- The offset just past the last byte. -/
def stop (a : Area) : Nat := a.offset.toNat + a.size.toNat

/-- Whether an offset on the area's device lies inside the area. -/
def contains (a : Area) (x : UInt32) : Bool := a.offset.toNat ≤ x.toNat && x.toNat < a.stop

/-- Whether two areas share a device and their stretches cross. -/
def overlaps (a b : Area) : Bool :=
  a.device == b.device && decide (a.offset.toNat < b.stop) && decide (b.offset.toNat < a.stop)

/-- Whether `a` stands strictly before `b` in a region: by id, then device, offset and name. -/
def precedes (a b : Area) : Bool :=
  a.id < b.id || a.id == b.id && (a.device < b.device || a.device == b.device &&
    (a.offset < b.offset || a.offset == b.offset && a.name < b.name))

/-! ## System areas -/

/-- The area whose tail holds the region. -/
def bootLoaderName : String := "FLASH_AREA_BOOTLOADER"

/-- The areas that every map knows by name, with their fixed ids. -/
def systemIds : List (String × UInt32) :=
  [(bootLoaderName, 0), ("FLASH_AREA_IMAGE_0", 1), ("FLASH_AREA_IMAGE_1", 2),
   ("FLASH_AREA_IMAGE_SCRATCH", 3)]

/-- The fixed id of a system area. -/
def systemId? (name : String) : Option UInt32 := systemIds.lookup name

end Area

end FlashSeal
