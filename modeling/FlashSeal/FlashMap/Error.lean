/-
FlashSeal.FlashMap.Error — what can be wrong with the areas of a map, and its wording.

`message` is the sentence for a reader; `diagnostic` names the fault and its data.
-/
import FlashSeal.Text.Column
import FlashSeal.Text.Quoted

namespace FlashSeal

open Text

/-- What can be wrong with the areas of a map. -/
inductive MapError
  | duplicateName (name : String)
  | duplicateId (id : UInt32) (first second : String)
  | emptyArea (name : String)
  | pastAddressSpace (name : String)
  /-- Two areas on one device share an address. -/
  | overlapping (first second : String)
  deriving DecidableEq, Repr

namespace MapError

/-- The fault in a sentence. -/
def message : MapError → String
  | duplicateName name => "duplicate flash area name: " ++ name
  | duplicateId id first second =>
    "flash areas " ++ first ++ " and " ++ second ++ " share id " ++ decimal id.toNat
  | emptyArea name => "flash area " ++ name ++ " is empty"
  | pastAddressSpace name => "flash area " ++ name ++ " extends past 4 GiB"
  | overlapping first second => "flash areas " ++ first ++ " and " ++ second ++ " overlap"

/-- The fault's name and data. -/
def diagnostic : MapError → String
  | duplicateName name => "DuplicateAreaName(" ++ quoted name ++ ")"
  | duplicateId id first second =>
    "DuplicateAreaId \x7b id: " ++ decimal id.toNat ++ ", first: " ++ quoted first ++ ", second: "
      ++ quoted second ++ " \x7d"
  | emptyArea name => "EmptyArea(" ++ quoted name ++ ")"
  | pastAddressSpace name => "AreaOverflow(" ++ quoted name ++ ")"
  | overlapping first second =>
    "OverlappingAreas \x7b first: " ++ quoted first ++ ", second: " ++ quoted second ++ " \x7d"

end MapError

end FlashSeal
