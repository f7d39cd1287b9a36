/-
FlashSeal.Command.Embed — sealing an image file with the region of a map file.

The output is written once, at the end, so a failure before that leaves every file as it was.
-/
import FlashSeal.Command.Session

namespace FlashSeal.Session

open Text Toml

/-- Pads an image with erased bytes to a size, which must not be below its length. -/
def padImage (size : Nat) : Work Bytes CommandError Unit := do
  let length := (← get).length
  if size < length then throw (.longerThanPad length size)
  if length < size then modify (·.padTo size)

/-- The line that tells of padding, if there is any. -/
def paddingLines (length size : Nat) : List String :=
  if length < size then
    ["Padding image from " ++ decimal length ++ " to " ++ decimal size ++ " bytes with 0xFF"]
  else []

/-- The lines that tell where a region was placed. -/
def placementLines (p : Placement) : List String :=
  ["Meta region: " ++ decimal p.regionLength ++ " bytes at " ++ address p.regionOffset,
   "Meta hash:   " ++ hexDump p.hash.bytes,
   "  at " ++ address p.hashOffset]

/-- Reads an image, seals it with the region of a map and writes it. -/
def embed (mapPath input output : String) (padTo : Option Nat) (digest : Bytes → Digest := sha256)
    (document? : String → Option Entries := Toml.document?) : Session Unit := do
  let m ← loadMap mapPath document?
  report [.mapLoaded mapPath (some m.size)]
  let image ← readImage input
  print ["Read " ++ decimal image.length ++ " bytes from " ++ quoted input]
  let size := padTo.getD image.length
  let (fits, padded) := (padImage size).on image
  require id fits
  print (paddingLines image.length size)
  report (Journal.embed m padded digest)
  let (outcome, final) := (FlashSeal.embed m digest).on padded
  let placement ← require .region outcome
  writeImage output final
  print (placementLines placement)
  print ["Wrote " ++ decimal final.length ++ " bytes to " ++ quoted output]

end FlashSeal.Session
