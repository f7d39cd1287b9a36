/-
FlashSeal.Command.Session — the course of a command: what it prints, reports and leaves behind.

A command works on a store.  It prints lines and reports events as it goes, and these stand even
when a later step fails.  No command depends on which function takes the digest or reads a document:
both are arguments, with SHA-256 and TOML's reader where no others are given.
-/
import FlashSeal.Command.Store
import FlashSeal.Journal

namespace FlashSeal

open Text Toml

/-- Why a command failed. -/
inductive CommandError
  | mapUnreadable (path : String) (reason : FileError)
  /-- The map file holds no text. -/
  | mapNoText (path : String)
  | map (fault : MapFileError)
  /-- An image cannot be read or written. -/
  | file (reason : FileError)
  | region (fault : RegionError)
  /-- The image is longer than the size that it should be padded to. -/
  | longerThanPad (length size : Nat)
  | hashMismatch (stored computed : Digest)
  deriving DecidableEq

/-- The fault's name and data. -/
def CommandError.diagnostic : CommandError → String
  | mapUnreadable path reason => "IoError(" ++ quoted (path ++ ": " ++ reason.message) ++ ")"
  | mapNoText path => "IoError(" ++ quoted (path ++ ": stream did not contain valid UTF-8") ++ ")"
  | map fault => fault.diagnostic
  | file reason => reason.diagnostic
  | region fault => fault.diagnostic
  | longerThanPad length size =>
    "ImageLargerThanPad \x7b len: " ++ decimal length ++ ", size: " ++ decimal size ++ " \x7d"
  | hashMismatch stored computed =>
    "HashMismatch \x7b stored: " ++ quoted (hexDump stored.bytes) ++ ", computed: "
      ++ quoted (hexDump computed.bytes) ++ " \x7d"

/-- How far a command has come. -/
structure Progress where
  store : Store
  lines : List String := []
  events : List Event := []

/-- The course of a command, which may fail and always leaves its progress behind. -/
abbrev Session := Work Progress CommandError

namespace Session

/-- The outcome of a command on a store, and its progress. -/
def on (session : Session α) (store : Store) : Except CommandError α × Progress :=
  Work.on session { store }

/-- Prints lines. -/
def print (lines : List String) : Session Unit :=
  modify fun p => { p with lines := p.lines ++ lines }

/-- Reports events. -/
def report (events : List Event) : Session Unit :=
  modify fun p => { p with events := p.events ++ events }

/-- Goes on with a value, or fails. -/
def require (fault : ε → CommandError) : Except ε α → Session α
  | .ok a => pure a
  | .error e => throw (fault e)

/-- Reads an image. -/
def readImage (path : String) : Session Bytes := do
  require .file ((← get).store.read path)

/-- Writes an image. -/
def writeImage (path : String) (image : Bytes) : Session Unit := do
  let store ← require .file ((← get).store.write path image)
  modify fun p => { p with store }

/-- Loads the map that a file describes. -/
def loadMap (path : String) (document? : String → Option Entries := Toml.document?) :
    Session FlashMap := do
  let bytes ← require (.mapUnreadable path) ((← get).store.read path)
  match String.fromUTF8? (ByteArray.mk bytes.toArray) with
  | none => throw (.mapNoText path)
  | some text =>
    report (Journal.mapOfText text document?)
    require .map (FlashMap.ofText text document?)

end Session

end FlashSeal
