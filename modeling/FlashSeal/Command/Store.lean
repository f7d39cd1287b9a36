/-
FlashSeal.Command.Store — the files that commands read and write.

A store holds files and directories under the places where they stand.  A path is a way to a
place: it is followed name by name, and each name but the last must lead to a directory.  Reading
and writing are functions of the store; a path that leads nowhere fails with the reason that a
file system gives.
-/
import FlashSeal.Bytes
import FlashSeal.Text.Quoted
import FlashSeal.Text.Column

namespace FlashSeal

open Text

/-- Why a file cannot be read or written. -/
inductive FileError
  /-- There is no such file, or no directory to put it into. -/
  | notFound
  | isDirectory
  /-- A file stands where a directory should. -/
  | notDirectory
  /-- A name on the way, or the whole path, has too many bytes. -/
  | nameTooLong
  /-- The path holds a zero character, which no name can hold. -/
  | zeroInName
  deriving DecidableEq, Repr

namespace FileError

/-- The number of a fault; one that is found before the file system is asked has none. -/
def code? : FileError → Option Nat
  | notFound => some 2
  | isDirectory => some 21
  | notDirectory => some 20
  | nameTooLong => some 36
  | zeroInName => none

/-- The name of a fault. -/
def kind : FileError → String
  | notFound => "NotFound"
  | isDirectory => "IsADirectory"
  | notDirectory => "NotADirectory"
  | nameTooLong => "InvalidFilename"
  | zeroInName => "InvalidInput"

/-- The wording of a fault. -/
def wording : FileError → String
  | notFound => "No such file or directory"
  | isDirectory => "Is a directory"
  | notDirectory => "Not a directory"
  | nameTooLong => "File name too long"
  | zeroInName => "file name contained an unexpected NUL byte"

/-- The fault in a sentence. -/
def message (e : FileError) : String :=
  match e.code? with
  | some n => e.wording ++ " (os error " ++ decimal n ++ ")"
  | none => e.wording

/-- The fault's name and data. -/
def diagnostic (e : FileError) : String :=
  let front := match e.code? with
    | some n => "Os \x7b code: " ++ decimal n ++ ", "
    | none => "Error \x7b "
  front ++ "kind: " ++ e.kind ++ ", message: " ++ quoted e.wording ++ " \x7d"

end FileError

/-! ## Places and paths -/

/-- Where a file or a directory stands: the names that lead there from the working directory.  From
the root the first name is a slash; to a directory above, two dots stand in front.  The working
directory's own name and its way from the root are not known here, so a file that is named through them
counts as another file. -/
abbrev Place := List String

namespace Place

/-- The most bytes of a name. -/
def longestName : Nat := 255

/-- Whether the last name has more bytes than a name may have. -/
def isTooLong (place : Place) : Bool :=
  place.getLast?.any fun name => decide (longestName < name.utf8ByteSize)

/-- The directory above; the root is above itself. -/
def up (place : Place) : Place :=
  if place == ["/"] then place
  else if place.all (· == "..") then place ++ [".."]
  else place.dropLast

/-- Where a name leads from here; one dot stays and two dots climb. -/
def enter (here : Place) (name : String) : Place :=
  if name = "." then here else if name = ".." then here.up else here ++ [name]

end Place

/-- A path, cut at its slashes. -/
structure Path where
  /-- Where the way begins: the root or the working directory. -/
  start : Place
  /-- The names on the way, dots among them. -/
  names : List String
  /-- Whether a slash stands at the end, so that only a directory can be meant. -/
  endsWithSlash : Bool
  deriving DecidableEq, Repr

namespace Path

/-- The most bytes of a path. -/
def longest : Nat := 4095

/-- The pieces of a text between its slashes. -/
def pieces (cs : List Char) : List (List Char) :=
  cs.foldr (fun c acc =>
    match acc with
    | piece :: more => if c = '/' then [] :: piece :: more else (c :: piece) :: more
    | [] => []) [[]]

/-- The path that a text writes. -/
def ofText (s : String) : Except FileError Path :=
  let cs := s.toList
  if cs.contains '\x00' then .error .zeroInName
  else if cs.isEmpty then .error .notFound
  else if longest < s.utf8ByteSize then .error .nameTooLong
  else
    .ok ⟨if cs.head? = some '/' then ["/"] else [],
      ((pieces cs).filter fun piece => !piece.isEmpty).map String.ofList, cs.getLast? = some '/'⟩

/-- Where the way leads if nothing is in it. -/
def place (p : Path) : Place := p.names.foldl Place.enter p.start

end Path

/-! ## Stores -/

/-- Files and directories under their places. -/
structure Store where
  files : List (Place × Bytes)
  /-- The directories below the working directory or the root. -/
  directories : List Place := []
  deriving DecidableEq, Repr

namespace Store

/-- The contents of a file. -/
def file? (s : Store) (place : Place) : Option Bytes := s.files.lookup place

/-- Whether there is such a directory.  The working directory, those above it and the root always
are. -/
def hasDirectory (s : Store) (place : Place) : Bool :=
  place.all (· == "..") || place == ["/"] || s.directories.contains place

/-- Why there is no directory at a place. -/
def obstacle (s : Store) (place : Place) : FileError :=
  if (s.file? place).isSome then .notDirectory
  else if place.isTooLong then .nameTooLong
  else .notFound

/-- Follows names from here; all but the last must lead to directories. -/
def follow (s : Store) (here : Place) : List String → Except FileError Place
  | [] => .ok here
  | name :: names =>
    let there := here.enter name
    if names.isEmpty || s.hasDirectory there then s.follow there names
    else .error (s.obstacle there)

/-- Reads a file. -/
def read (s : Store) (path : String) : Except FileError Bytes := do
  let p ← Path.ofText path
  let place ← s.follow p.start p.names
  if s.hasDirectory place then throw .isDirectory
  match s.file? place with
  | none => throw (s.obstacle place)
  | some bytes =>
    if p.endsWithSlash then throw .notDirectory
    return bytes

/-- The files with one of them replaced, or added at the end. -/
def replace (place : Place) (bytes : Bytes) : List (Place × Bytes) → List (Place × Bytes)
  | [] => [(place, bytes)]
  | (p, b) :: rest =>
    if p = place then (place, bytes) :: rest else (p, b) :: replace place bytes rest

/-- Writes a file, in place of an older one or as a new one in a directory. -/
def write (s : Store) (path : String) (bytes : Bytes) : Except FileError Store := do
  let p ← Path.ofText path
  let place ← s.follow p.start p.names
  if p.endsWithSlash || s.hasDirectory place then throw .isDirectory
  if place.isTooLong then throw .nameTooLong
  return { s with files := replace place bytes s.files }

end Store

end FlashSeal
