/-
FlashSeal.MapFile.Form — the form that a document must have to be a map file.

The keys flash_map and area are read in the order in which the document has them, and the first
value that is not of its form decides.  A table may also be written as an array of its fields.
Keys that a map file does not know are passed over.

What reads the document is an argument, TOML's reader where no other is given: the form depends on
the document alone.
-/
import FlashSeal.MapFile.Entry
import FlashSeal.Toml.Document

namespace FlashSeal

open Text Toml

/-- What a value should have been. -/
inductive Wanted
  | text
  | list
  | area
  | map
  deriving DecidableEq, Repr

/-- The wording of what was wanted. -/
def Wanted.label : Wanted → String
  | text => "a string"
  | list => "a sequence"
  | area => "struct TomlArea"
  | map => "struct TomlFlashMapMeta"

/-- The wording of what was wanted, with its number of fields. -/
def Wanted.labelWithFields : Wanted → String
  | area => "struct TomlArea with 5 elements"
  | map => "struct TomlFlashMapMeta with 1 element"
  | other => other.label

/-- Why a document is no map file. -/
inductive FormError
  | missingField (name : String)
  /-- A value is of another type than the one wanted; the first text words what it is. -/
  | wrongType (found : String) (wanted : Wanted)
  /-- An array in place of a table lacks the field at this position. -/
  | tooShort (position : Nat) (wanted : Wanted)
  /-- A number is neither a text nor an integer of 32 bits. -/
  | noNumber
  deriving DecidableEq, Repr

/-- The wording of a form's fault. -/
def FormError.message : FormError → String
  | missingField name => "missing field `" ++ name ++ "`"
  | wrongType found wanted => "invalid type: " ++ found ++ ", expected " ++ wanted.label
  | tooShort position wanted =>
    "invalid length " ++ decimal position ++ ", expected " ++ wanted.labelWithFields
  | noNumber => "data did not match any variant of untagged enum TomlNumber"

/-- Why a text is no map file. -/
inductive DocumentError
  | noDocument
  | wrongForm (fault : FormError)
  deriving DecidableEq, Repr

/-- The wording of a document's fault. -/
def DocumentError.message : DocumentError → String
  | noDocument => "TOML syntax"
  | wrongForm fault => "TOML schema: " ++ fault.message

/-! ## Values -/

/-- An integer in base ten. -/
def integerText (n : Int) : String :=
  if n < 0 then "-" ++ decimal n.natAbs else decimal n.natAbs

/-- The wording of what a value is. -/
def foundText : Value → String
  | .string s => "string " ++ quoted s
  | .integer n => "integer `" ++ integerText n ++ "`"
  | .float x => "floating point `" ++ x.text ++ "`"
  | .boolean b => "boolean `" ++ (if b then "true" else "false") ++ "`"
  | .moment => "map"
  | .array _ _ => "sequence"
  | .table _ _ => "map"

/-- Reads a text. -/
def formText : Value → Except FormError String
  | .string s => .ok s
  | v => .error (.wrongType (foundText v) .text)

/-- Reads a number. -/
def formNumber : Value → Except FormError RawNumber
  | .string s => .ok (.text s)
  | .integer n => if 0 ≤ n ∧ n < UInt32.size then .ok (.word (UInt32.ofNat n.toNat)) else .error .noNumber
  | _ => .error .noNumber

/-! ## Tables -/

/-- Reads the board's name.  A date counts as a table without known keys. -/
def formBoard : Value → Except FormError (Option String)
  | .table _ entries =>
    match entries.lookup "name" with
    | some v => (formText v).map some
    | none => .ok none
  | .array _ (v :: _) => (formText v).map some
  | .array _ [] => .error (.tooShort 0 .map)
  | .moment => .ok none
  | v => .error (.wrongType (foundText v) .map)

/-- The fields of an area as far as they were read. -/
structure AreaFields where
  name : Option String := none
  id : Option RawNumber := none
  device : Option RawNumber := none
  offset : Option RawNumber := none
  size : Option RawNumber := none

/-- Reads one key of an area. -/
def AreaFields.read (f : AreaFields) (key : String) (v : Value) : Except FormError AreaFields := do
  if key = "name" then return { f with name := some (← formText v) }
  else if key = "id" then return { f with id := some (← formNumber v) }
  else if key = "device" then return { f with device := some (← formNumber v) }
  else if key = "offset" then return { f with offset := some (← formNumber v) }
  else if key = "size" then return { f with size := some (← formNumber v) }
  else return f

/-- The entry of the fields, if none is missing. -/
def AreaFields.entry (f : AreaFields) : Except FormError AreaEntry :=
  match f.name, f.offset, f.size with
  | none, _, _ => .error (.missingField "name")
  | _, none, _ => .error (.missingField "offset")
  | _, _, none => .error (.missingField "size")
  | some name, some offset, some size => .ok ⟨name, f.id, f.device, offset, size⟩

/-- Reads the fields of an area from an array: name, id, device, offset and size. -/
def formAreaList (items : List Value) : Except FormError AreaEntry := do
  let name ← match items[0]? with
    | some v => formText v
    | none => throw (.tooShort 0 .area)
  let id ← items[1]?.mapM formNumber
  let device ← items[2]?.mapM formNumber
  let offset ← match items[3]? with
    | some v => formNumber v
    | none => throw (.tooShort 3 .area)
  let size ← match items[4]? with
    | some v => formNumber v
    | none => throw (.tooShort 4 .area)
  return ⟨name, id, device, offset, size⟩

/-- Reads an area.  A date counts as a table without known keys. -/
def formArea : Value → Except FormError AreaEntry
  | .table _ entries => do
    let fields ← entries.foldlM (fun (f : AreaFields) (key, v) => f.read key v) {}
    fields.entry
  | .array _ items => formAreaList items
  | .moment => AreaFields.entry {}
  | v => .error (.wrongType (foundText v) .area)

/-- Reads the areas. -/
def formAreas : Value → Except FormError (List AreaEntry)
  | .array _ items => items.mapM formArea
  | v => .error (.wrongType (foundText v) .list)

/-- Reads one key of a map file. -/
def MapFile.read (f : MapFile) (key : String) (v : Value) : Except FormError MapFile := do
  if key = "flash_map" then return { f with name := ← formBoard v }
  else if key = "area" then return { f with entries := ← formAreas v }
  else return f

/-- The map file that a text writes. -/
def MapFile.ofText (text : String) (document? : String → Option Entries := Toml.document?) :
    Except DocumentError MapFile :=
  match document? text with
  | none => .error .noDocument
  | some entries =>
    (entries.foldlM (fun (f : MapFile) (key, v) => f.read key v) {}).mapError .wrongForm

/-! ## The map of a text -/

/-- Why a text gives no flash map. -/
inductive MapFileError
  | document (fault : DocumentError)
  | entry (fault : EntryError)
  deriving DecidableEq, Repr

namespace MapFileError

/-- The fault in a sentence. -/
def message : MapFileError → String
  | document fault => "failed to parse flash map: " ++ fault.message
  | entry fault => fault.message

/-- The fault's name and data. -/
def diagnostic : MapFileError → String
  | document _ => "ParseError(TOML)"
  | entry fault => fault.diagnostic

end MapFileError

/-- The flash map that a text describes. -/
def FlashMap.ofText (text : String) (document? : String → Option Entries := Toml.document?) :
    Except MapFileError FlashMap := do
  let file ← (MapFile.ofText text document?).mapError .document
  file.flashMap.mapError .entry

end FlashSeal
