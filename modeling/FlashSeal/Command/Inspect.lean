/-
FlashSeal.Command.Inspect — showing and checking the region of an image file.

Both commands locate the region in the same way: through a map where one is given, and by search
where none is.
-/
import FlashSeal.Command.Session

namespace FlashSeal.Session

open Text Toml

/-- The region of an image. -/
def locate (image : Bytes) (mapPath : Option String)
    (document? : String → Option Entries := Toml.document?) : Session Region :=
  match mapPath with
  | some mapPath => do
    let m ← loadMap mapPath document?
    report [.mapLoaded mapPath none]
    require .region (Region.read image m)
  | none => do
    report [.searching]
    report (Journal.find image)
    require .region (Region.find image)

/-- The line of an area record. -/
def recordLine (r : AreaRecord) : String :=
  alignRight 4 (decimal r.areaId.toNat) ++ " " ++ alignRight 6 (decimal r.deviceId.toNat) ++ " "
    ++ hex 10 r.offset.toNat ++ " " ++ alignRight 12 (sizeText r.size)

/-- The lines of a region. -/
def regionLines (r : Region) : List String :=
  ["Meta Region",
   "===========",
   "Version: " ++ decimal r.header.version.toNat,
   "Offset:  " ++ address r.offset ++ " - " ++ address r.stop ++ " (" ++ decimal r.length ++ " bytes)",
   "Hash:    " ++ hexDump r.hash.bytes ++ " (at " ++ address r.hashOffset ++ ")",
   "",
   "Flash areas (" ++ decimal r.areas.length ++ "):",
   alignRight 4 "Id" ++ " " ++ alignRight 6 "Device" ++ " " ++ alignRight 12 "Offset" ++ " "
     ++ alignRight 12 "Size",
   String.ofList (List.replicate 37 '-')] ++ r.areas.map recordLine

/-- The lines that tell whether the stored digest is the image's. -/
def verdictLines (valid : Bool) : List String :=
  ["", "Hash:   " ++ if valid then "valid" else "INVALID"]

/-- Shows the region of an image, and whether its digest is valid. -/
def describe (input : String) (mapPath : Option String) (digest : Bytes → Digest := sha256)
    (document? : String → Option Entries := Toml.document?) : Session Unit := do
  let image ← readImage input
  let region ← locate image mapPath document?
  print (regionLines region)
  let valid ← require .region ((FlashSeal.verify region digest).on image).1
  print (verdictLines valid)

/-- Checks the digest of an image. -/
def verify (input : String) (mapPath : Option String) (digest : Bytes → Digest := sha256)
    (document? : String → Option Entries := Toml.document?) : Session Unit := do
  let image ← readImage input
  let region ← locate image mapPath document?
  let computed ← require .region ((calcHash region.hashOffset digest).on image).1
  if computed ≠ region.hash then throw (.hashMismatch region.hash computed)
  print ["Meta hash OK: " ++ hexDump computed.bytes]

end FlashSeal.Session
