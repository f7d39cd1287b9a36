/-
FlashSeal.Toml.Table — building the tables of a document from its lines.

Three kinds of lines add to a table: a dotted key with a value, a table header and an array
header.  Each may open tables on its way, and each refuses to touch what is complete: a value that
was written out, a key that stands already, a table that a header or a dotted key has closed to
the other.
-/
import FlashSeal.Toml.Value

namespace FlashSeal.Toml.Entries

/-- Changes the value of a key in its place, or adds the key at the end. -/
def alter (key : String) (change : Option Value → Option Value) : Entries → Option Entries
  | [] => (change none).map fun v => [(key, v)]
  | (k, v) :: rest =>
    if k = key then (change (some v)).map fun v => (key, v) :: rest
    else (alter key change rest).map ((k, v) :: ·)

/-- Changes the last item of a list of tables. -/
def alterLast (change : Entries → Option Entries) (items : List Value) : Option (List Value) :=
  match items.reverse with
  | .table origin entries :: before =>
    (change entries).map fun entries => (.table origin entries :: before).reverse
  | _ => none

/-- Puts a value under a dotted key.  The tables on the way must be open, and the one that takes
the value must have been named by dotted keys alone. -/
def put (key : String) (value : Value) : List String → Entries → Option Entries
  | [], entries =>
    entries.alter key fun
      | none => some value
      | some _ => none
  | step :: path, entries =>
    entries.alter step fun
      | none => (put key value path []).map (.table .dotted)
      | some (.table .dotted inner) => (put key value path inner).map (.table .dotted)
      | some (.table .implied inner) =>
        if path.isEmpty then none else (put key value path inner).map (.table .implied)
      | some (.array .header items) =>
        if path.isEmpty then none
        else (alterLast (put key value path) items).map (.array .header)
      | some _ => none

/-- Works on the table at the end of a header's path, opening the tables that are missing. -/
def below (work : Entries → Option Entries) : List String → Entries → Option Entries
  | [], entries => work entries
  | step :: path, entries =>
    entries.alter step fun
      | none => (below work path []).map (.table .implied)
      | some (.table origin inner) =>
        if origin = .inline then none else (below work path inner).map (.table origin)
      | some (.array .header items) => (alterLast (below work path) items).map (.array .header)
      | some _ => none

/-- Opens the table of a header.  A table that was only implied keeps its entries and moves behind
the others. -/
def openTable (key : String) (fill : Entries → Option Entries) (entries : Entries) :
    Option Entries :=
  let others := entries.filter fun (k, _) => k != key
  match entries.lookup key with
  | none => (fill []).map fun inner => others ++ [(key, .table .header inner)]
  | some (.table .implied inner) =>
    (fill inner).map fun inner => others ++ [(key, .table .header inner)]
  | some _ => none

/-- Adds a table to the array of a header. -/
def extendArray (key : String) (fill : Entries → Option Entries) (entries : Entries) :
    Option Entries :=
  entries.alter key fun
    | none => (fill []).map fun inner => .array .header [.table .header inner]
    | some (.array .header items) =>
      (fill []).map fun inner => .array .header (items ++ [.table .header inner])
    | some _ => none

end FlashSeal.Toml.Entries
