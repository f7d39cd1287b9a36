/-
FlashSeal.Journal — what the library reports of its work while it goes on.

An event is a fact about a run, with a level and a wording.  The events of an operation follow from
its arguments and its outcome, so they are computed beside the operation and not inside it.
-/
import FlashSeal.MapFile.Form
import FlashSeal.Seal

namespace FlashSeal

open Text Toml

/-- How much an event matters. -/
inductive Level
  /-- The course of the work. -/
  | info
  /-- Single steps. -/
  | debug
  /-- Every detail. -/
  | trace
  deriving DecidableEq, Repr

/-- The name of a level. -/
def Level.label : Level → String
  | info => "INFO"
  | debug => "DEBUG"
  | trace => "TRACE"

/-- A fact about a run. -/
inductive Event
  | areaRead (area : Area)
  /-- A map file was loaded, with the number of its areas where that is told. -/
  | mapLoaded (path : String) (areas : Option Nat)
  | searching
  | encoded (length hashOffset : Nat)
  /-- A byte stands where the region should. -/
  | notErased (byte : UInt8) (offset : Nat)
  | placed (length offset : Nat)
  | hashed (offset : Nat) (digest : Digest)
  | sealed (areas length offset : Nat)
  /-- The magic stands where no region ends. -/
  | skipped (stop : Nat) (reason : RegionError)
  deriving DecidableEq

namespace Event

/-- How much the event matters. -/
def level : Event → Level
  | areaRead _ | skipped _ _ => .trace
  | mapLoaded _ _ | searching | sealed _ _ _ => .info
  | encoded _ _ | notErased _ _ | placed _ _ | hashed _ _ => .debug

/-- The event in a sentence. -/
def message : Event → String
  | areaRead a =>
    "flash area " ++ a.name ++ ": id=" ++ decimal a.id.toNat ++ " device=" ++ decimal a.device.toNat
      ++ " offset=" ++ address a.offset.toNat ++ " size=" ++ hex 1 a.size.toNat
  | mapLoaded path none => "Loaded flash map from " ++ quoted path
  | mapLoaded path (some n) =>
    "Loaded flash map from " ++ quoted path ++ " (" ++ decimal n ++ " areas)"
  | searching => "No flash map given, searching image for meta region..."
  | encoded length hashOffset =>
    "Encoded meta region: " ++ decimal length ++ " bytes, hash at +" ++ hex 1 hashOffset
  | notErased byte offset =>
    "Non-erased byte " ++ hex 2 byte.toNat ++ " at " ++ address offset ++ " in meta region window"
  | placed length offset =>
    "Inserted " ++ decimal length ++ " byte meta region at " ++ address offset
  | hashed offset digest =>
    "Meta hash at " ++ address offset ++ ": " ++ hexList digest.bytes
  | sealed areas length offset =>
    "Meta region: " ++ decimal areas ++ " areas, " ++ decimal length ++ " bytes at "
      ++ address offset
  | skipped stop reason =>
    "Skipping meta magic ending at " ++ address stop ++ ": " ++ reason.diagnostic

end Event

/-! ## The events of an operation -/

namespace Journal

/-- The events of writing a region. -/
def encode (areas : List Area) : List Event :=
  match Encoded.ofAreas areas with
  | .ok region => [.encoded region.length region.hashOffset]
  | .error _ => []

/-- The events of placing a region. -/
def place (region : Encoded) (m : FlashMap) (image : Bytes) : List Event :=
  match ((FlashSeal.place region m).on image).1, m.bootLoader? with
  | .ok hashOffset, _ => [.placed region.length (hashOffset - region.hashOffset)]
  | .error (.spaceOccupied start), some boot =>
    match firstWritten? image start boot.stop with
    | some (byte, offset) => [.notErased byte offset]
    | none => []
  | .error _, _ => []

/-- The events of filling the hash field. -/
def fillHash (offset : Nat) (image : Bytes) (digest : Bytes → Digest := sha256) : List Event :=
  match ((FlashSeal.fillHash offset digest).on image).1 with
  | .ok hash => [.hashed offset hash]
  | .error _ => []

/-- The events of sealing an image. -/
def embed (m : FlashMap) (image : Bytes) (digest : Bytes → Digest := sha256) : List Event :=
  match Encoded.ofAreas m.emission with
  | .error _ => []
  | .ok region =>
    encode m.emission ++ place region m image ++
      match ((FlashSeal.embed m digest).on image).1 with
      | .error _ => []
      | .ok p => [.hashed p.hashOffset p.hash, .sealed m.size p.regionLength p.regionOffset]

/-- The events of trying candidates for a region's end. -/
def findAmong (image : Bytes) : List Nat → List Event
  | [] => []
  | stop :: stops =>
    match Region.decode (image.take stop) with
    | .ok _ => []
    | .error reason => .skipped stop reason :: findAmong image stops

/-- The events of searching an image. -/
def find (image : Bytes) : List Event := findAmong image (Region.candidates image)

/-- The events of adding entries to a map. -/
def insertEntries (m : FlashMap) : List AreaEntry → List Event
  | [] => []
  | e :: rest =>
    match e.area with
    | .error _ => []
    | .ok area =>
      .areaRead area ::
        match m.insert area with
        | .error _ => []
        | .ok m => insertEntries m rest

/-- The events of reading a map file. -/
def mapOfText (text : String) (document? : String → Option Entries := Toml.document?) :
    List Event :=
  match MapFile.ofText text document? with
  | .error _ => []
  | .ok file => insertEntries { FlashMap.empty with name := file.name } file.entries

end Journal

end FlashSeal
