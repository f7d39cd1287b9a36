/-
FlashSeal.MapFile.Entry — the areas of a map file, and what a map is made of them.

An entry gives its numbers as integers or as text.  The entries are taken in their order and each
is checked as a whole before the next: id, device, offset, size, and then whether its name is new.
The map of all entries is validated at the end.
-/
import FlashSeal.FlashMap
import FlashSeal.Quantity

namespace FlashSeal

open Text

/-- A number as it stands in a map file. -/
inductive RawNumber
  /-- An integer that fits 32 bits. -/
  | word (n : UInt32)
  /-- A text that should be a number or a size. -/
  | text (s : String)
  deriving DecidableEq, Repr

/-- An area as it stands in a map file. -/
structure AreaEntry where
  name : String
  /-- The id, which a system area may leave out. -/
  id? : Option RawNumber
  /-- The device, 0 if it is left out. -/
  device? : Option RawNumber
  offset : RawNumber
  size : RawNumber
  deriving DecidableEq, Repr

/-- What a map file holds. -/
structure MapFile where
  name : Option String := none
  /-- The areas in the order of the file. -/
  entries : List AreaEntry := []
  deriving DecidableEq, Repr

/-! ## Faults -/

/-- A field of an entry that holds a number. -/
inductive EntryField
  | id
  | device
  | offset
  | size
  deriving DecidableEq, Repr

/-- The key of a field. -/
def EntryField.label : EntryField → String
  | id => "id"
  | device => "device"
  | offset => "offset"
  | size => "size"

/-- Why entries make no map. -/
inductive EntryError
  /-- The area needs an id of its own. -/
  | missingId (name : String)
  | badNumber (name : String) (field : EntryField) (reason : NumberError)
  | badSize (name : String) (reason : SizeError)
  | map (fault : MapError)
  deriving DecidableEq, Repr

namespace EntryError

/-- The field of an area and what is wrong with it. -/
def located (name : String) (field : EntryField) (reason : String) : String :=
  name ++ "." ++ field.label ++ ": " ++ reason

/-- The fault in a sentence. -/
def message : EntryError → String
  | missingId name => "flash area " ++ name ++ " needs an explicit id"
  | badNumber name field reason =>
    "failed to parse flash map: " ++ located name field reason.message
  | badSize name reason => "failed to parse flash map: " ++ located name .size reason.message
  | map fault => fault.message

/-- The fault's name and data. -/
def diagnostic : EntryError → String
  | missingId name => "MissingAreaId(" ++ quoted name ++ ")"
  | badNumber name field reason => "ParseError(" ++ quoted (located name field reason.message) ++ ")"
  | badSize name reason => "ParseError(" ++ quoted (located name .size reason.message) ++ ")"
  | map fault => fault.diagnostic

end EntryError

/-! ## From entries to a map -/

/-- Reads a number. -/
def RawNumber.number : RawNumber → Except NumberError UInt32
  | word n => .ok n
  | text s => readNumber s

/-- Reads a size. -/
def RawNumber.size : RawNumber → Except SizeError UInt32
  | word n => .ok n
  | text s => readSize s

namespace AreaEntry

/-- The id that an entry gives, or that its name has. -/
def id (e : AreaEntry) : Except EntryError UInt32 :=
  match e.id? with
  | some raw => raw.number.mapError (.badNumber e.name .id)
  | none =>
    match Area.systemId? e.name with
    | some id => .ok id
    | none => .error (.missingId e.name)

/-- The device that an entry gives. -/
def device (e : AreaEntry) : Except EntryError UInt32 :=
  match e.device? with
  | some raw => raw.number.mapError (.badNumber e.name .device)
  | none => .ok 0

/-- The area of an entry. -/
def area (e : AreaEntry) : Except EntryError Area := do
  let id ← e.id
  let device ← e.device
  let offset ← e.offset.number.mapError (.badNumber e.name .offset)
  let size ← e.size.size.mapError (.badSize e.name)
  return ⟨e.name, id, device, offset, size⟩

end AreaEntry

/-- The map with the area of one more entry. -/
def FlashMap.insertEntry (m : FlashMap) (e : AreaEntry) : Except EntryError FlashMap := do
  let area ← e.area
  (m.insert area).mapError .map

/-- The map of a file, validated. -/
def MapFile.flashMap (f : MapFile) : Except EntryError FlashMap := do
  let m ← f.entries.foldlM FlashMap.insertEntry { FlashMap.empty with name := f.name }
  m.validate.mapError .map
  return m

end FlashSeal
