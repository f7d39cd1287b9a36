/-
FlashSeal.Text.Blank — white space around a text, and small letters.

White space is the Unicode property of that name.  `lowered` gives the small letters of a text as
far as ASCII can tell: besides the capitals of ASCII only the Kelvin sign and the dotted capital I
have a small form with an ASCII letter in it.
-/

namespace FlashSeal.Text

/-- Whether a character is white space. -/
def isBlank (c : Char) : Bool :=
  let n := c.toNat
  (0x09 ≤ n && n ≤ 0x0D) || n == 0x20 || n == 0x85 || n == 0xA0 || n == 0x1680
    || (0x2000 ≤ n && n ≤ 0x200A) || n == 0x2028 || n == 0x2029 || n == 0x202F || n == 0x205F
    || n == 0x3000

/-- The text without the white space at its two ends. -/
def trimmed (cs : List Char) : List Char :=
  ((cs.dropWhile isBlank).reverse.dropWhile isBlank).reverse

/-- The small form of a character, where it concerns an ASCII letter. -/
def loweredChar (c : Char) : List Char :=
  if c = '\u212A' then ['k']
  else if c = '\u0130' then ['i', '\u0307']
  else [c.toLower]

/-- The text in small letters, where these are ASCII letters. -/
def lowered (cs : List Char) : List Char := cs.flatMap loweredChar

end FlashSeal.Text
