/-
FlashSeal.FlashMap — the areas of a board, each under its own name.

The areas are kept in the order of their names, and that order is part of the type: two maps that
hold the same areas are equal, however they were built.  `emission` lists the areas in the order
in which a region records them, which is total on the areas of a map because names break every
tie.
-/
import FlashSeal.Area
import FlashSeal.FlashMap.Error
import FlashSeal.Work

namespace FlashSeal

/-- A set of areas, listed by name, with an optional name of its own. -/
structure FlashMap where
  name : Option String := none
  areas : List Area := []
  /-- Each name stands once, and the names ascend. -/
  ascending : areas.Pairwise (fun a b => a.name < b.name) := by decide

namespace FlashMap

/-- The map without areas. -/
def empty : FlashMap := {}

/-- Puts an area among areas that ascend by name, in place of the one of its name if there is one. -/
def putAmong (a : Area) : List Area → List Area
  | [] => [a]
  | b :: rest =>
    if a.name < b.name then a :: b :: rest
    else if a.name = b.name then a :: rest
    else b :: putAmong a rest

theorem eq_or_mem_of_mem_putAmong {a x : Area} {areas : List Area} (h : x ∈ putAmong a areas) :
    x = a ∨ x ∈ areas := by
  induction areas with
  | nil => exact .inl (List.mem_singleton.1 h)
  | cons b rest ih =>
    rw [putAmong] at h
    split at h
    · exact List.mem_cons.1 h
    · split at h <;> grind

theorem pairwise_putAmong (a : Area) {areas : List Area}
    (hs : areas.Pairwise (fun a b => a.name < b.name)) :
    (putAmong a areas).Pairwise (fun a b => a.name < b.name) := by
  induction areas with
  | nil => exact List.pairwise_singleton _ a
  | cons b rest ih =>
    obtain ⟨hhead, htail⟩ := List.pairwise_cons.1 hs
    rw [putAmong]
    split
    · next hlt =>
      refine List.pairwise_cons.2 ⟨fun x hx => ?_, hs⟩
      rcases List.mem_cons.1 hx with rfl | hx
      · exact hlt
      · exact String.lt_trans hlt (hhead x hx)
    · split
      · next heq => exact List.pairwise_cons.2 ⟨fun x hx => heq ▸ hhead x hx, htail⟩
      · next hlt hne =>
        refine List.pairwise_cons.2 ⟨fun x hx => ?_, ih htail⟩
        rcases eq_or_mem_of_mem_putAmong hx with rfl | hx
        · grind
        · exact hhead x hx

/-- The map with an area under its name, whatever stood there. -/
def put (m : FlashMap) (a : Area) : FlashMap :=
  { m with areas := putAmong a m.areas, ascending := pairwise_putAmong a m.ascending }

/-- The area of this name. -/
def get? (m : FlashMap) (name : String) : Option Area := m.areas.find? (·.name == name)

end FlashMap

/-- Work on a map. -/
abbrev MapOp := Work FlashMap MapError

/-- Adds an area to the map, unless its name is taken. -/
def MapOp.insert (a : Area) : MapOp Unit := do
  if ((← get).get? a.name).isSome then throw (.duplicateName a.name)
  modify (·.put a)

namespace FlashMap

/-- The map with one more area, unless its name is taken. -/
def insert (m : FlashMap) (a : Area) : Except MapError FlashMap :=
  let (outcome, left) := (MapOp.insert a).on m
  outcome.map fun () => left

/-- The area whose tail holds the region. -/
def bootLoader? (m : FlashMap) : Option Area := m.get? Area.bootLoaderName

/-- The number of areas. -/
def size (m : FlashMap) : Nat := m.areas.length

/-- Whether the map holds no area. -/
def isEmpty (m : FlashMap) : Bool := m.areas.isEmpty

/-- The areas in the order in which a region records them. -/
def emission (m : FlashMap) : List Area := m.areas.mergeSort fun a b => !b.precedes a

/-! ## Well-formed maps -/

/-- What is wrong with an area by itself. -/
def areaFault? (a : Area) : Option MapError :=
  if a.size = 0 then some (.emptyArea a.name)
  else if UInt32.size < a.stop then some (.pastAddressSpace a.name)
  else none

/-- What two areas have against each other. -/
def pairFault? (a b : Area) : Option MapError :=
  if a.id = b.id then some (.duplicateId a.id a.name b.name)
  else if a.overlaps b then some (.overlapping a.name b.name)
  else none

/-- The first fault between an area and a later one. -/
def firstPairFault? : List Area → Option MapError
  | [] => none
  | a :: rest => (rest.findSome? (pairFault? a)).or (firstPairFault? rest)

/-- Accepts a map whose areas are non-empty, end inside the address space, and neither share an id
nor an address; single areas are looked at by name, pairs in emission order. -/
def validate (m : FlashMap) : Except MapError Unit :=
  match (m.areas.findSome? areaFault?).or (firstPairFault? m.emission) with
  | some fault => .error fault
  | none => .ok ()

end FlashMap

end FlashSeal
