/-
FlashSeal.Quantity — numbers and sizes as people write them.

A number is decimal, or in base sixteen behind 0x.  A size is a number, or a decimal with a unit
behind it.  Map files hold 32-bit numbers and sizes; a padded size on the command line is a 64-bit
size with fewer units.  `sizeText` writes a size with the largest unit that loses nothing.
-/
import FlashSeal.Text.Blank
import FlashSeal.Text.Column
import FlashSeal.Text.Numeral

namespace FlashSeal

open Text

/-- Why a text is no number. -/
inductive NumberError
  /-- What follows 0x is no numeral in base sixteen. -/
  | badHex (cause : NumeralError)
  /-- The text is no decimal numeral. -/
  | badDecimal (cause : NumeralError)
  deriving DecidableEq, Repr

/-- The wording of a number's fault. -/
def NumberError.message : NumberError → String
  | badHex cause => "invalid hex: " ++ cause.message
  | badDecimal cause => "invalid number: " ++ cause.message

/-- Why a text is no size; the text stands without the white space around it. -/
inductive SizeError
  /-- The text has none of the forms of a size. -/
  | badSize (text : String)
  /-- The number times its unit does not fit. -/
  | tooLarge (text : String)
  deriving DecidableEq, Repr

/-- The wording of a size's fault. -/
def SizeError.message : SizeError → String
  | badSize text => "invalid size: " ++ text
  | tooLarge text => "size too large: " ++ text

/-- Why a text is no padded size. -/
inductive PadSizeError
  /-- What follows 0x is no numeral in base sixteen. -/
  | badHex (cause : NumeralError)
  /-- The part before the unit is no decimal numeral. -/
  | badDecimal (cause : NumeralError)
  /-- The number times its unit does not fit; the text stands without white space around it. -/
  | tooLarge (text : String)
  deriving DecidableEq, Repr

/-- The wording of a padded size's fault. -/
def PadSizeError.message : PadSizeError → String
  | badHex cause => "Invalid hex value: " ++ cause.message
  | badDecimal cause => "Invalid number: " ++ cause.message
  | tooLarge text => "Size too large: " ++ text

/-! ## Units -/

/-- One kibibyte. -/
def kibi : Nat := 1024

/-- One mebibyte. -/
def mebi : Nat := 1024 * kibi

/-- The units of a size in a map file, in the order in which they are looked for. -/
def mapUnits : List (List Char × Nat) :=
  [(['m', 'i', 'b'], mebi), (['m', 'b'], mebi), (['k', 'i', 'b'], kibi), (['k', 'b'], kibi),
   (['b'], 1)]

/-- The units of a padded size, in the order in which they are looked for. -/
def padUnits : List (List Char × Nat) := [(['m', 'i', 'b'], mebi), (['k', 'i', 'b'], kibi)]

/-- The text before an ending, if the text has that ending. -/
def dropEnding? (ending cs : List Char) : Option (List Char) :=
  if ending.isSuffixOf cs then some (cs.take (cs.length - ending.length)) else none

/-- The text before the first unit that ends it, without white space around it, and the unit's
factor. -/
def cutUnit? (units : List (List Char × Nat)) (cs : List Char) : Option (List Char × Nat) :=
  units.findSome? fun (unit, factor) => (dropEnding? unit cs).map fun front => (trimmed front, factor)

/-- What follows 0x, if the text begins with it. -/
def hexPart? : List Char → Option (List Char)
  | '0' :: 'x' :: digits => some digits
  | '0' :: 'X' :: digits => some digits
  | _ => none

/-! ## Reading -/

/-- Reads a 32-bit number, with white space allowed around it. -/
def readNumber (s : String) : Except NumberError UInt32 :=
  let cs := trimmed s.toList
  match hexPart? cs with
  | some digits =>
    match readNumeral 16 UInt32.size digits with
    | .ok n => .ok (UInt32.ofNat n)
    | .error cause => .error (.badHex cause)
  | none =>
    match readNumeral 10 UInt32.size cs with
    | .ok n => .ok (UInt32.ofNat n)
    | .error cause => .error (.badDecimal cause)

/-- Reads a 32-bit size, with white space allowed around it and before its unit. -/
def readSize (s : String) : Except SizeError UInt32 :=
  let text := String.ofList (trimmed s.toList)
  match readNumber s with
  | .ok n => .ok n
  | .error _ =>
    match cutUnit? mapUnits (lowered (trimmed s.toList)) with
    | none => .error (.badSize text)
    | some (front, factor) =>
      match readNumeral 10 UInt32.size front with
      | .error _ => .error (.badSize text)
      | .ok n => if n * factor < UInt32.size then .ok (UInt32.ofNat (n * factor)) else .error (.tooLarge text)

/-- Reads a 64-bit padded size, with white space allowed around it and before its unit. -/
def readPadSize (s : String) : Except PadSizeError Nat :=
  let cs := trimmed s.toList
  match hexPart? cs with
  | some digits => (readNumeral 16 UInt64.size digits).mapError .badHex
  | none =>
    let (front, factor) := (cutUnit? padUnits (lowered cs)).getD (lowered cs, 1)
    match readNumeral 10 UInt64.size front with
    | .error cause => .error (.badDecimal cause)
    | .ok n => if n * factor < UInt64.size then .ok (n * factor) else .error (.tooLarge (String.ofList cs))

/-! ## Writing -/

/-- A size with the largest unit that divides it and is not larger than it. -/
def sizeText (size : UInt32) : String :=
  let n := size.toNat
  if mebi ≤ n ∧ n % mebi = 0 then decimal (n / mebi) ++ " MiB"
  else if kibi ≤ n ∧ n % kibi = 0 then decimal (n / kibi) ++ " KiB"
  else decimal n ++ " B"

end FlashSeal
