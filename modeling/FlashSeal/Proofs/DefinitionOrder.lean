/-
FlashSeal.Proofs.DefinitionOrder — the order in which areas are defined does not matter.

Areas with different names build one map, whatever their order, so everything that is computed from
the map is the same: the emission, the verdict on the map, the region and the sealed image
(`order_of_definition`).  That rests on two facts about a map.  It is the set of its areas
(`FlashMap.ext_of_perm`), and no two of its areas tie in the emission, so the emission is the one
strictly ascending arrangement of them (`FlashMap.pairwise_emission`).

The entries of a map file are converted one by one before they are inserted, and a conversion looks at
its entry alone.  So a file makes a map exactly when every entry is an area, the names differ and the
map is well-formed (`MapFile.flashMap_eq_ok_iff`), and none of these speaks of an order.
-/
import Mathlib.Data.List.Permutation
import FlashSeal.MapFile.Entry
import FlashSeal.Proofs.MapBuilding
import FlashSeal.Proofs.Outcome
import FlashSeal.Seal

namespace FlashSeal

/-! ## Areas -/

/-- Areas with different names build one map in every order. -/
theorem FlashMap.exists_foldlM_insert_of_perm {areas others : List Area} (h : areas.Perm others)
    (hnodup : (areas.map Area.name).Nodup) :
    ∃ m : FlashMap, areas.foldlM FlashMap.insert .empty = .ok m ∧
      others.foldlM FlashMap.insert .empty = .ok m ∧ m.areas.Perm areas := by
  obtain ⟨m, hm⟩ := exists_foldlM_insert (m := .empty) hnodup
  obtain ⟨-, hname, hperm⟩ := foldlM_insert_eq_ok_iff.1 hm
  have hothers : others.foldlM FlashMap.insert .empty = .ok m :=
    foldlM_insert_eq_ok_iff.2 ⟨((h.map Area.name).nodup_iff).1 hnodup, hname, hperm.trans h⟩
  exact ⟨m, hm, hothers, hperm⟩

/-! ## Entries of a map file -/

namespace FlashMap

theorem insertEntry_eq_ok_iff {m built : FlashMap} {e : AreaEntry} :
    m.insertEntry e = .ok built ↔ ∃ a, e.area = .ok a ∧ m.insert a = .ok built := by
  simp only [insertEntry, Except.bind_eq_ok_iff, Except.mapError_eq_ok_iff]

/-- Inserting entries is inserting their areas, once every entry is one. -/
theorem foldlM_insertEntry_eq_ok_iff {entries : List AreaEntry} {m built : FlashMap} :
    entries.foldlM insertEntry m = .ok built ↔
      ∃ areas, List.Forall₂ (fun e a => AreaEntry.area e = .ok a) entries areas ∧
        areas.foldlM insert m = .ok built := by
  induction entries generalizing m with
  | nil =>
    simp only [List.forall₂_nil_left_iff, exists_eq_left]
    constructor
    · intro h
      exact congrArg Except.ok (Except.ok.inj h)
    · intro h
      exact congrArg Except.ok (Except.ok.inj h)
  | cons e entries ih =>
    rw [List.foldlM_cons, Except.bind_eq_ok_iff]
    constructor
    · rintro ⟨next, hentry, hrest⟩
      obtain ⟨a, harea, hinsert⟩ := insertEntry_eq_ok_iff.1 hentry
      obtain ⟨areas, hareas, hfold⟩ := ih.1 hrest
      refine ⟨a :: areas, .cons harea hareas, ?_⟩
      rw [List.foldlM_cons, Except.bind_eq_ok_iff]
      exact ⟨next, hinsert, hfold⟩
    · rintro ⟨areas, hareas, hfold⟩
      cases hareas with
      | cons harea hrest =>
        rw [List.foldlM_cons, Except.bind_eq_ok_iff] at hfold
        obtain ⟨next, hinsert, hfold⟩ := hfold
        exact ⟨next, insertEntry_eq_ok_iff.2 ⟨_, harea, hinsert⟩, ih.2 ⟨_, hrest, hfold⟩⟩

end FlashMap

namespace MapFile

/-- A file makes a map exactly when every entry is an area, the names differ and the map of the areas
is well-formed. -/
theorem flashMap_eq_ok_iff {file : MapFile} {m : FlashMap} :
    file.flashMap = .ok m ↔
      ∃ areas, List.Forall₂ (fun e a => AreaEntry.area e = .ok a) file.entries areas ∧
        (areas.map Area.name).Nodup ∧ m.name = file.name ∧ m.areas.Perm areas ∧
        m.validate = .ok () := by
  simp only [flashMap, Except.bind_eq_ok_iff, Except.mapError_eq_ok_iff,
    FlashMap.foldlM_insertEntry_eq_ok_iff, FlashMap.foldlM_insert_eq_ok_iff]
  constructor
  · rintro ⟨built, ⟨areas, hareas, hnodup, hname, hperm⟩, ⟨⟩, hvalid, h⟩
    obtain rfl := Except.ok.inj h
    exact ⟨areas, hareas, hnodup, hname, hperm, hvalid⟩
  · rintro ⟨areas, hareas, hnodup, hname, hperm, hvalid⟩
    exact ⟨m, ⟨areas, hareas, hnodup, hname, hperm⟩, (), hvalid, rfl⟩

/-- A map that a file makes is the map of the file with its entries in any other order. -/
theorem flashMap_of_perm {name : Option String} {entries others : List AreaEntry} {m : FlashMap}
    (hperm : entries.Perm others) (h : flashMap ⟨name, entries⟩ = .ok m) :
    flashMap ⟨name, others⟩ = .ok m := by
  obtain ⟨areas, hareas, hnodup, hname, hm, hvalid⟩ := flashMap_eq_ok_iff.1 h
  obtain ⟨areas', hareas', hperm'⟩ := List.perm_comp_forall₂ hperm.symm hareas
  exact flashMap_eq_ok_iff.2 ⟨areas', hareas', ((hperm'.map Area.name).nodup_iff).2 hnodup, hname,
    hm.trans hperm'.symm, hvalid⟩

end MapFile

/-! ## Order of definition -/

/-- Areas with different names give one emission, in which each strictly precedes the next, one verdict,
one region and one sealed image, in whatever order they are inserted.  The entries of a map file make
a map in every order or in none, and it is one map. -/
theorem order_of_definition (digest : Bytes → Digest) :
    (∀ areas others : List Area, areas.Perm others → (areas.map Area.name).Nodup →
      ∃ m₁ m₂ : FlashMap,
        areas.foldlM FlashMap.insert .empty = .ok m₁ ∧
        others.foldlM FlashMap.insert .empty = .ok m₂ ∧
        m₁.emission.Perm areas ∧ m₁.emission.Pairwise (fun a b => a.precedes b = true) ∧
        m₂.emission = m₁.emission ∧ m₂.validate = m₁.validate ∧
        Encoded.ofAreas m₂.emission = Encoded.ofAreas m₁.emission ∧
        ∀ image, (embed m₂ digest).on image = (embed m₁ digest).on image) ∧
    (∀ (name : Option String) (entries others : List AreaEntry), entries.Perm others →
      ((∃ m, MapFile.flashMap ⟨name, entries⟩ = .ok m) ↔
        ∃ m, MapFile.flashMap ⟨name, others⟩ = .ok m) ∧
      ∀ m₁ m₂, MapFile.flashMap ⟨name, entries⟩ = .ok m₁ →
        MapFile.flashMap ⟨name, others⟩ = .ok m₂ →
        m₂.areas = m₁.areas ∧
          ∀ image, (embed m₂ digest).on image = (embed m₁ digest).on image) := by
  constructor
  · intro areas others hperm hnodup
    obtain ⟨m, hareas, hothers, hm⟩ := FlashMap.exists_foldlM_insert_of_perm hperm hnodup
    exact ⟨m, m, hareas, hothers, m.perm_emission.trans hm, m.pairwise_emission, rfl, rfl, rfl,
      fun image => rfl⟩
  · intro name entries others hperm
    refine ⟨⟨?_, ?_⟩, ?_⟩
    · rintro ⟨m, hm⟩
      exact ⟨m, MapFile.flashMap_of_perm hperm hm⟩
    · rintro ⟨m, hm⟩
      exact ⟨m, MapFile.flashMap_of_perm hperm.symm hm⟩
    · intro m₁ m₂ h₁ h₂
      obtain rfl : m₁ = m₂ :=
        Except.ok.inj ((MapFile.flashMap_of_perm hperm h₁).symm.trans h₂)
      exact ⟨rfl, fun image => rfl⟩

/-- Two areas that differ in name and size only, so that the name alone orders them. -/
def tiedAreas : List Area :=
  [⟨"SLOT_B", 7, 0, 0x100, 8⟩, ⟨"SLOT_A", 7, 0, 0x100, 16⟩]

/-- A boot loader area without an id, and a log area behind it. -/
def bootEntries : List AreaEntry :=
  [⟨"FLASH_AREA_BOOTLOADER", none, none, .word 0, .text "0x4C"⟩,
    ⟨"LOG", some (.text "16"), none, .word 0x4C, .word 4⟩]

/-- The map of the two entries. -/
def bootEntriesMap : FlashMap where
  areas := [⟨"FLASH_AREA_BOOTLOADER", 0, 0, 0, 0x4C⟩, ⟨"LOG", 16, 0, 0x4C, 4⟩]
  ascending := by decide

theorem flashMap_bootEntries : MapFile.flashMap ⟨none, bootEntries⟩ = .ok bootEntriesMap := by
  refine MapFile.flashMap_eq_ok_iff.2 ⟨bootEntriesMap.areas, ?_, by decide, rfl, .refl _, by cbv⟩
  exact .cons (by rfl) (.cons (by rfl) .nil)

theorem order_of_definition_tiedAreas :
    (∃ m₁ m₂ : FlashMap,
      tiedAreas.foldlM FlashMap.insert .empty = .ok m₁ ∧
      tiedAreas.reverse.foldlM FlashMap.insert .empty = .ok m₂ ∧
      m₂.emission = m₁.emission ∧ m₂.validate = m₁.validate) ∧
    ∃ m, MapFile.flashMap ⟨none, bootEntries.reverse⟩ = .ok m ∧ m.areas = bootEntriesMap.areas := by
  obtain ⟨hareas, hentries⟩ := order_of_definition sha256
  obtain ⟨m₁, m₂, h₁, h₂, -, -, hemission, hvalidate, -, -⟩ :=
    hareas tiedAreas tiedAreas.reverse (List.reverse_perm _).symm (by decide)
  obtain ⟨hboth, hsame⟩ := hentries none bootEntries bootEntries.reverse (List.reverse_perm _).symm
  obtain ⟨m, hm⟩ := hboth.1 ⟨bootEntriesMap, flashMap_bootEntries⟩
  exact ⟨⟨m₁, m₂, h₁, h₂, hemission, hvalidate⟩, m, hm, (hsame _ _ flashMap_bootEntries hm).1⟩

end FlashSeal
