/-
FlashSeal.Region.Search — where the region of an image is.

With a map, the region ends where the boot loader area ends.  Without one, every place at which
the magic stands is a candidate, and the last that ends a readable region wins.
-/
import FlashSeal.FlashMap
import FlashSeal.Region

namespace FlashSeal

/-- The end of an area, if the image reaches it. -/
def Area.stopWithin (a : Area) (imageLength : Nat) : Except RegionError Nat :=
  if imageLength < a.stop then .error (.areaOutsideImage a.stop imageLength) else .ok a.stop

/-- The boot loader area of a map. -/
def FlashMap.bootLoader (m : FlashMap) : Except RegionError Area :=
  match m.bootLoader? with
  | some boot => .ok boot
  | none => .error (.missingArea Area.bootLoaderName)

namespace Region

/-- Reads the region at the end of the boot loader area. -/
def read (image : Bytes) (m : FlashMap) : Except RegionError Region := do
  let boot ← m.bootLoader
  let stop ← boot.stopWithin image.length
  let region ← decode (image.take stop)
  if region.offset < boot.offset.toNat then throw (.malformed .outsideBootLoader)
  return region

/-! ## Without a map -/

/-- The bytes of the magic as they stand in a footer. -/
def magicBytes : Bytes := littleEndian 4 regionMagic.toNat

/-- The offset just past every place at which the magic stands, ascending; `position` is where
the bytes stand. -/
def magicStops (position : Nat) : Bytes → List Nat
  | [] => []
  | b :: bs =>
    if magicBytes.isPrefixOf (b :: bs) then (position + magicBytes.length) :: magicStops (position + 1) bs
    else magicStops (position + 1) bs

/-- The candidates for a region's end, last first. -/
def candidates (image : Bytes) : List Nat :=
  ((magicStops 0 image).filter fun stop => decide (leastRegionLength ≤ stop)).reverse

/-- Reads the first candidate that ends a readable region. -/
def findAmong (image : Bytes) : List Nat → Except RegionError Region
  | [] => .error .noRegion
  | stop :: stops =>
    match decode (image.take stop) with
    | .ok region => .ok region
    | .error _ => findAmong image stops

/-- Searches an image for its last readable region. -/
def find (image : Bytes) : Except RegionError Region := findAmong image (candidates image)

end Region

end FlashSeal
