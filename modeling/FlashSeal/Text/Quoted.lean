/-
FlashSeal.Text.Quoted — text between double quotes, as reports and diagnostics show it.

A quote and a backslash get a backslash in front, the four common control characters their short
names, and any other character without a shape of its own is written by number.
-/
import FlashSeal.Text.Invisible

namespace FlashSeal.Text

/-- A character as it stands between quotes. -/
def escaped (c : Char) : List Char :=
  match c with
  | '"' => ['\\', '"']
  | '\\' => ['\\', '\\']
  | '\t' => ['\\', 't']
  | '\n' => ['\\', 'n']
  | '\r' => ['\\', 'r']
  | '\x00' => ['\\', '0']
  | c => if isInvisible c then ['\\', 'u', '\x7b'] ++ Nat.toDigits 16 c.toNat ++ ['\x7d'] else [c]

/-- The text between double quotes. -/
def quoted (s : String) : String :=
  String.ofList ('"' :: s.toList.flatMap escaped ++ ['"'])

end FlashSeal.Text
