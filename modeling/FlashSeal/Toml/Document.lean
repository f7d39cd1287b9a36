/-
FlashSeal.Toml.Document — reading a TOML document.

The text is first cut into lines: keys with their values, table headers and array headers.  The
lines under one header form a section, and the sections are put together in their order.  A value
that lies in values nests less than eighty deep, and so does a dotted key.
-/
import FlashSeal.Toml.Number
import FlashSeal.Toml.Quotation
import FlashSeal.Toml.Table

namespace FlashSeal.Toml

/-- A reader takes what it needs off the front of the characters that are left, or fails. -/
abbrev Reader := StateT (List Char) Option

namespace Reader

/-- The next character, which stays. -/
def peek? : Reader (Option Char) := return (← get).head?

/-- Takes one character, which must be `c`. -/
def take (c : Char) : Reader Unit := fun
  | d :: rest => if d = c then some ((), rest) else none
  | [] => none

/-- Takes the characters that satisfy `p`. -/
def takeWhile (p : Char → Bool) : Reader (List Char) := do
  let cs ← get
  set (cs.dropWhile p)
  return cs.takeWhile p

/-- Takes spaces and tabs. -/
def blanks : Reader Unit := do
  let _ ← takeWhile fun c => c == ' ' || c == '\t'

/-- Takes the rest of a line: blanks, a comment and the line end. -/
def lineEnd : Reader Unit := do
  blanks
  if (← peek?) = some '#' then
    let _ ← takeWhile isLineChar
  match ← get with
  | [] => return
  | '\n' :: rest => set rest
  | '\r' :: '\n' :: rest => set rest
  | _ => failure

/-- What follows blanks, line ends and comments; `inComment` is set inside a comment. -/
def afterFiller (inComment : Bool) : List Char → List Char
  | [] => []
  | '\n' :: cs => afterFiller false cs
  | '\r' :: '\n' :: cs => afterFiller false cs
  | c :: cs =>
    if inComment then if isLineChar c then afterFiller true cs else c :: cs
    else if c == ' ' || c == '\t' then afterFiller false cs
    else if c == '#' then afterFiller true cs
    else c :: cs

/-- Takes blanks, line ends and comments. -/
def filler : Reader Unit := modify (afterFiller false)

end Reader

open Reader

/-! ## Keys -/

/-- The most values that may lie in each other, and the most parts of a dotted key. -/
def greatestDepth : Nat := 79

/-- Whether a character can stand in an unquoted key. -/
def isKeyChar (c : Char) : Bool := c.isAlphanum || c == '_' || c == '-'

/-- Reads one part of a key. -/
def keyPart : Reader String := do
  match ← peek? with
  | some '"' | some '\'' => return String.ofList (← lineQuotation)
  | _ =>
    let cs ← takeWhile isKeyChar
    if cs.isEmpty then failure
    return String.ofList cs

/-- Reads a dotted key of at most `depth` parts, with the blanks around them. -/
def dottedKey : Nat → Reader (List String)
  | 0 => failure
  | depth + 1 => do
    blanks
    let part ← keyPart
    blanks
    if (← peek?) = some '.' then
      take '.'
      return part :: (← dottedKey depth)
    return [part]

/-- Reads a dotted key: the parts on the way and the last. -/
def key : Reader (List String × String) := do
  let parts ← dottedKey greatestDepth
  match parts.getLast? with
  | some last => return (parts.dropLast, last)
  | none => failure

/-! ## Values -/

/-- Reads a number, a truth value, a date or a time.  A blank may stand between a date and a
time. -/
def scalar : Reader Value := do
  let cs ← takeWhile isScalarChar
  if isDate cs then
    match ← get with
    | ' ' :: c :: rest =>
      if c.isDigit then
        set (c :: rest)
        let time ← takeWhile isScalarChar
        if !isZonedTime time then failure
    | _ => pure ()
    return .moment
  match scalar? cs with
  | some v => return v
  | none => failure

/-- Reads the items of an array up to its closing bracket. -/
def arrayItems (item : Reader Value) : Nat → Reader (List Value)
  | 0 => failure
  | fuel + 1 => do
    filler
    if (← peek?) = some ']' then
      take ']'
      return []
    let v ← item
    filler
    if (← peek?) = some ',' then
      take ','
      return v :: (← arrayItems item fuel)
    take ']'
    return [v]

/-- Reads the keys and values of an inline table up to its closing brace. -/
def inlineEntries (item : Reader Value) (entries : Entries) : Nat → Reader Entries
  | 0 => failure
  | fuel + 1 => do
    let (path, last) ← key
    take '='
    blanks
    let v ← item
    blanks
    match entries.put last v path with
    | none => failure
    | some entries =>
      if (← peek?) = some ',' then
        take ','
        inlineEntries item entries fuel
      else
        take '\x7d'
        return entries

/-- Reads a value whose inner values, if it may have any, are read by `item?`. -/
def valueOf (item? : Option (Reader Value)) : Reader Value := do
  match ← peek?, item? with
  | some '"', _ | some '\'', _ => return .string (String.ofList (← quotation))
  | some '[', none | some '\x7b', none => failure
  | some '[', some item =>
    take '['
    return .array .inline (← arrayItems item ((← get).length + 1))
  | some '\x7b', some item =>
    take '\x7b'
    blanks
    if (← peek?) = some '\x7d' then
      take '\x7d'
      return .table .inline []
    return .table .inline (← inlineEntries item [] ((← get).length + 1))
  | _, _ => scalar

/-- Reads a value in which others lie at most `depth` deep. -/
def value : Nat → Reader Value
  | 0 => valueOf none
  | depth + 1 => valueOf (some (value depth))

/-! ## Lines -/

/-- What opens a section. -/
inductive Heading
  | table (path : List String) (key : String)
  /-- The header of a table in an array. -/
  | array (path : List String) (key : String)

/-- A line that is not empty. -/
inductive Line
  | pair (path : List String) (key : String) (value : Value)
  | heading (h : Heading)

/-- Reads a header behind its first bracket. -/
def heading : Reader Heading := do
  if (← peek?) = some '[' then
    take '['
    let (path, last) ← key
    take ']'
    take ']'
    lineEnd
    return .array path last
  let (path, last) ← key
  take ']'
  lineEnd
  return .table path last

/-- Reads a dotted key with its value. -/
def pair : Reader Line := do
  let (path, last) ← key
  take '='
  blanks
  let v ← value greatestDepth
  lineEnd
  return .pair path last v

/-- Reads all lines that are not empty. -/
def lines : Nat → Reader (List Line)
  | 0 => failure
  | fuel + 1 => do
    blanks
    match ← peek? with
    | none => return []
    | some '\n' | some '\r' | some '#' =>
      lineEnd
      lines fuel
    | some '[' =>
      take '['
      let h ← heading
      return .heading h :: (← lines fuel)
    | some _ =>
      let line ← pair
      return line :: (← lines fuel)

/-! ## Sections -/

/-- A header, or none for the top, and the keys with their values under it. -/
structure Section where
  heading : Option Heading
  pairs : List (List String × String × Value)

/-- Gathers lines into sections. -/
def sections (current : Section) : List Line → List Section
  | [] => [current]
  | .pair path key value :: rest =>
    sections { current with pairs := (path, key, value) :: current.pairs } rest
  | .heading h :: rest => current :: sections ⟨some h, []⟩ rest

/-- Puts the pairs of a section into its table. -/
def Section.fill (s : Section) (entries : Entries) : Option Entries :=
  s.pairs.reverse.foldlM (fun entries (path, key, value) => entries.put key value path) entries

/-- Adds a section to the document's table. -/
def Section.addTo (s : Section) (root : Entries) : Option Entries :=
  match s.heading with
  | some (.table path key) => Entries.below (Entries.openTable key s.fill) path root
  | some (.array path key) => Entries.below (Entries.extendArray key s.fill) path root
  | none => s.fill root

/-- The table of a document, or nothing if the text is no document.  A byte order mark may stand
at the start. -/
def document? (text : String) : Option Entries := do
  let cs := match text.toList with
    | '\uFEFF' :: cs => cs
    | cs => cs
  let (lines, _) ← (lines (cs.length + 1)).run cs
  (sections ⟨none, []⟩ lines).foldlM (fun root s => s.addTo root) []

end FlashSeal.Toml
