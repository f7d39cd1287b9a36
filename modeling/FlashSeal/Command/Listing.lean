/-
FlashSeal.Command.Listing — listing the areas of a map file in the order of a region.
-/
import FlashSeal.Command.Session

namespace FlashSeal.Session

open Text Toml

/-- The line of an area. -/
def areaLine (a : Area) : String :=
  alignLeft 28 a.name ++ " " ++ alignRight 4 (decimal a.id.toNat) ++ " "
    ++ alignRight 6 (decimal a.device.toNat) ++ " " ++ hex 10 a.offset.toNat ++ " "
    ++ alignRight 10 (sizeText a.size)

/-- The lines of a map. -/
def mapLines (m : FlashMap) : List String :=
  ["Flash Map", "========="]
    ++ (m.name.map fun name => "Name:   " ++ name).toList
    ++ ["", "Areas (" ++ decimal m.size ++ "):",
      alignLeft 28 "Name" ++ " " ++ alignRight 4 "Id" ++ " " ++ alignRight 6 "Device" ++ " "
        ++ alignRight 12 "Offset" ++ " " ++ alignRight 10 "Size",
      String.ofList (List.replicate 64 '-')]
    ++ m.emission.map areaLine
    ++ if m.bootLoader?.isNone then
        ["", "warning: no " ++ Area.bootLoaderName ++ " area; a meta region cannot be embedded"]
      else []

/-- Lists the areas of a map file. -/
def listAreas (mapPath : String) (document? : String → Option Entries := Toml.document?) :
    Session Unit := do
  let m ← loadMap mapPath document?
  print (mapLines m)

end FlashSeal.Session
