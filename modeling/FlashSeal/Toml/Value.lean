/-
FlashSeal.Toml.Value — the values of a TOML document.

A table lists its keys in the order in which they were first written, and remembers how it came
about: that decides whether later lines may still add to it.
-/
import FlashSeal.Decimal.Binary64

namespace FlashSeal.Toml

/-- How a table or an array came about. -/
inductive Origin
  /-- It was written as a value and is complete. -/
  | inline
  /-- It has a header of its own. -/
  | header
  /-- It was named only on the way to another header. -/
  | implied
  /-- It was named only inside a dotted key. -/
  | dotted
  deriving DecidableEq, Repr

/-- A value. -/
inductive Value
  | string (s : String)
  | integer (n : Int)
  | float (x : Decimal.Binary64)
  | boolean (b : Bool)
  /-- A date, a time or both. -/
  | moment
  | array (origin : Origin) (items : List Value)
  | table (origin : Origin) (entries : List (String × Value))

/-- The keys of a table with their values. -/
abbrev Entries := List (String × Value)

end FlashSeal.Toml
