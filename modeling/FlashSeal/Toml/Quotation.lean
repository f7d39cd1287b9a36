/-
FlashSeal.Toml.Quotation — the four quotations of TOML.

Between double quotes a backslash starts an escape; between single quotes every character stands
for itself.  Tripled quotes let the text run over lines.  Each function reads what follows the
opening quotes and gives the text and what follows the closing ones.
-/
import FlashSeal.Text.Numeral

namespace FlashSeal.Toml

/-- Whether a character may stand in a line of text: a tab, or no control character. -/
def isLineChar (c : Char) : Bool := c == '\t' || (0x20 ≤ c.toNat && c.toNat != 0x7F)

/-- The character of a number in base sixteen, if there is one. -/
def charOfHex? (digits : List Char) : Option Char := do
  let values ← digits.mapM (Text.digitValue? 16)
  let n := values.foldl (fun n d => n * 16 + d) 0
  if h : n.isValidChar then some (Char.ofNatAux n h) else none

/-- The character of an escape of one letter. -/
def shortEscape? : Char → Option Char
  | 'b' => some '\x08'
  | 't' => some '\t'
  | 'n' => some '\n'
  | 'f' => some '\x0c'
  | 'r' => some '\r'
  | '"' => some '"'
  | '\\' => some '\\'
  | _ => none

/-- Puts a character, if there is one, in front of a text that was read behind it. -/
def front (c : Option Char) (tail : Option (List Char × List Char)) :
    Option (List Char × List Char) :=
  c.bind fun c => tail.map fun (text, rest) => (c :: text, rest)

/-! ## On one line -/

/-- Reads text up to a double quote. -/
def lineText : List Char → Option (List Char × List Char)
  | [] => none
  | '"' :: rest => some ([], rest)
  | '\\' :: 'u' :: a :: b :: c :: d :: rest => front (charOfHex? [a, b, c, d]) (lineText rest)
  | '\\' :: 'U' :: a :: b :: c :: d :: e :: f :: g :: h :: rest =>
    front (charOfHex? [a, b, c, d, e, f, g, h]) (lineText rest)
  | '\\' :: e :: rest => front (shortEscape? e) (lineText rest)
  | c :: rest => if isLineChar c && c != '\\' then front (some c) (lineText rest) else none

/-- Reads text up to a single quote. -/
def lineLiteral : List Char → Option (List Char × List Char)
  | [] => none
  | '\'' :: rest => some ([], rest)
  | c :: rest => if isLineChar c then front (some c) (lineLiteral rest) else none

/-! ## Over several lines -/

/-- Whether nothing but blanks is left on the line. -/
def endsLine (cs : List Char) : Bool :=
  match cs.dropWhile fun c => c == ' ' || c == '\t' with
  | '\n' :: _ => true
  | '\r' :: '\n' :: _ => true
  | _ => false

/-- Reads text up to three double quotes, before which one or two more may stand.  A backslash at
the end of a line drops the blanks and line ends behind it: `dropping` is set meanwhile. -/
def blockText (dropping : Bool) : List Char → Option (List Char × List Char)
  | [] => none
  | '"' :: '"' :: '"' :: '"' :: '"' :: rest => some (['"', '"'], rest)
  | '"' :: '"' :: '"' :: '"' :: rest => some (['"'], rest)
  | '"' :: '"' :: '"' :: rest => some ([], rest)
  | '\r' :: '\n' :: rest =>
    if dropping then blockText true rest else front (some '\n') (blockText false rest)
  | '\n' :: rest =>
    if dropping then blockText true rest else front (some '\n') (blockText false rest)
  | '\\' :: 'u' :: a :: b :: c :: d :: rest => front (charOfHex? [a, b, c, d]) (blockText false rest)
  | '\\' :: 'U' :: a :: b :: c :: d :: e :: f :: g :: h :: rest =>
    front (charOfHex? [a, b, c, d, e, f, g, h]) (blockText false rest)
  | '\\' :: e :: rest =>
    if endsLine (e :: rest) then blockText true (e :: rest)
    else front (shortEscape? e) (blockText false rest)
  | c :: rest =>
    if dropping && (c == ' ' || c == '\t') then blockText true rest
    else if isLineChar c && c != '\\' then front (some c) (blockText false rest)
    else none

/-- Reads text up to three single quotes, before which one or two more may stand. -/
def blockLiteral : List Char → Option (List Char × List Char)
  | [] => none
  | '\'' :: '\'' :: '\'' :: '\'' :: '\'' :: rest => some (['\'', '\''], rest)
  | '\'' :: '\'' :: '\'' :: '\'' :: rest => some (['\''], rest)
  | '\'' :: '\'' :: '\'' :: rest => some ([], rest)
  | '\r' :: '\n' :: rest => front (some '\n') (blockLiteral rest)
  | '\n' :: rest => front (some '\n') (blockLiteral rest)
  | c :: rest => if isLineChar c then front (some c) (blockLiteral rest) else none

/-- What follows the line end that may stand right behind opening quotes. -/
def afterLineEnd : List Char → List Char
  | '\r' :: '\n' :: rest => rest
  | '\n' :: rest => rest
  | cs => cs

/-! ## Any quotation -/

/-- Reads a quotation on one line, as a key is quoted. -/
def lineQuotation : List Char → Option (List Char × List Char)
  | '"' :: rest => lineText rest
  | '\'' :: rest => lineLiteral rest
  | _ => none

/-- Reads a quotation of any kind. -/
def quotation : List Char → Option (List Char × List Char)
  | '"' :: '"' :: '"' :: rest => blockText false (afterLineEnd rest)
  | '\'' :: '\'' :: '\'' :: rest => blockLiteral (afterLineEnd rest)
  | cs => lineQuotation cs

end FlashSeal.Toml
