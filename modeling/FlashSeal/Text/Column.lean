/-
FlashSeal.Text.Column — text in columns of fixed width, and numbers in base sixteen.

Widths count characters.  A number in base sixteen has capital digits and stands behind 0x.
-/
import FlashSeal.Bytes

namespace FlashSeal.Text

/-- The text at the left of a column of `width` characters. -/
def alignLeft (width : Nat) (s : String) : String :=
  String.ofList (s.toList.rightpad width ' ')

/-- The text at the right of a column of `width` characters. -/
def alignRight (width : Nat) (s : String) : String :=
  String.ofList (s.toList.leftpad width ' ')

/-- The number in base ten. -/
def decimal (n : Nat) : String := String.ofList (Nat.toDigits 10 n)

/-- The capital digits of a number in base sixteen. -/
def capitalHex (n : Nat) : List Char := (Nat.toDigits 16 n).map Char.toUpper

/-- The number in base sixteen behind 0x, with no less than `width` digits. -/
def hex (width n : Nat) : String := String.ofList ('0' :: 'x' :: (capitalHex n).leftpad width '0')

/-- The number in base sixteen with eight digits or more, as offsets are shown. -/
def address (n : Nat) : String := hex 8 n

/-- The two small digits of a byte. -/
def byteDigits (b : UInt8) : List Char := (Nat.toDigits 16 b.toNat).leftpad 2 '0'

/-- Bytes as small digits, two for each. -/
def hexDump (bs : Bytes) : String := String.ofList (bs.flatMap byteDigits)

/-- The bytes of a list in brackets, two small digits for each. -/
def hexList (bs : Bytes) : String :=
  "[" ++ String.intercalate ", " (bs.map fun b => String.ofList (byteDigits b)) ++ "]"

end FlashSeal.Text
