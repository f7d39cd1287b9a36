/-
FlashSeal.Proofs.MapBuilding — the map that insertions build.

A map is the set of its areas (`ext_of_perm`), so one iff says all of an insertion: it succeeds exactly
when the name is new, and then holds what the map held and the area (`insert_eq_ok_iff`).  The same iff
holds of a whole run of insertions, by induction on the areas (`foldlM_insert_eq_ok_iff`): a run
succeeds exactly when all the names differ, whatever the order of the areas.
-/
import Mathlib.Data.List.Nodup
import FlashSeal.Proofs.EmissionOrder

namespace FlashSeal

namespace FlashMap

variable {m built other : FlashMap} {a : Area} {areas : List Area}

/-! ## One area -/

/-- Under a new name an area joins the others, and nothing else happens. -/
theorem perm_putAmong (h : ∀ b ∈ areas, b.name ≠ a.name) : (putAmong a areas).Perm (a :: areas) := by
  induction areas with
  | nil => exact List.Perm.refl _
  | cons b rest ih =>
    obtain ⟨hb, hrest⟩ := List.forall_mem_cons.1 h
    rw [putAmong]
    split
    · exact List.Perm.refl _
    · rw [if_neg (Ne.symm hb)]
      exact ((ih hrest).cons b).trans (List.Perm.swap a b rest)

/-! ## Maps -/

/-- A map is determined by its name and the set of its areas. -/
theorem ext_of_perm (hname : m.name = other.name) (h : m.areas.Perm other.areas) : m = other := by
  have hareas : m.areas = other.areas := by
    refine h.eq_of_pairwise ?_ m.ascending other.ascending
    intro a b _ _ hab hba
    exact absurd hba (lt_asymm hab)
  obtain ⟨name, areas, ascending⟩ := m
  obtain ⟨otherName, otherAreas, otherAscending⟩ := other
  obtain rfl : name = otherName := hname
  obtain rfl : areas = otherAreas := hareas
  rfl

/-- An area is found under its name, and no other area is. -/
theorem get?_eq_some_iff {name : String} : m.get? name = some a ↔ a ∈ m.areas ∧ a.name = name := by
  constructor
  · intro h
    exact ⟨List.mem_of_find?_eq_some h, by simpa using List.find?_some h⟩
  · rintro ⟨ha, rfl⟩
    cases hget : m.get? a.name with
    | none => simpa using List.find?_eq_none.1 hget a ha
    | some b =>
      have hb : b ∈ m.areas := List.mem_of_find?_eq_some hget
      have hname : b.name = a.name := by simpa using List.find?_some hget
      rw [List.inj_on_of_nodup_map m.nodup_names hb ha hname]

theorem isSome_get?_iff {name : String} :
    (m.get? name).isSome = true ↔ ∃ b ∈ m.areas, b.name = name := by
  simp only [Option.isSome_iff_exists, get?_eq_some_iff]

/-- Inserting fails where the name stands already, and the map is as it was; else it puts the area under
its name. -/
theorem on_insert (m : FlashMap) (a : Area) :
    (MapOp.insert a).on m =
      if ∃ b ∈ m.areas, b.name = a.name then (.error (.duplicateName a.name), m)
      else (.ok (), m.put a) := by
  simp only [MapOp.insert, Work.on_bind, Work.on_get, isSome_get?_iff]
  split
  · simp only [Work.on_bind, Work.on_throw]
  · simp only [Work.on_modify]

theorem insert_eq (m : FlashMap) (a : Area) :
    m.insert a =
      if ∃ b ∈ m.areas, b.name = a.name then .error (.duplicateName a.name) else .ok (m.put a) := by
  simp only [insert, on_insert]
  by_cases htaken : ∃ b ∈ m.areas, b.name = a.name
  · simp only [if_pos htaken]
    rfl
  · simp only [if_neg htaken]
    rfl

/-- Inserting succeeds exactly when the name is new, and adds the area and nothing else. -/
theorem insert_eq_ok_iff :
    m.insert a = .ok built ↔
      (∀ b ∈ m.areas, b.name ≠ a.name) ∧ built.name = m.name ∧ built.areas.Perm (a :: m.areas) := by
  rw [insert_eq]
  split
  · next htaken =>
    obtain ⟨b, hb, heq⟩ := htaken
    simp only [reduceCtorEq, false_iff]
    rintro ⟨hnew, -, -⟩
    exact hnew b hb heq
  · next hfree =>
    have hnew : ∀ b ∈ m.areas, b.name ≠ a.name := fun b hb heq => hfree ⟨b, hb, heq⟩
    rw [Except.ok.injEq, and_iff_right hnew]
    constructor
    · rintro rfl
      exact ⟨rfl, perm_putAmong hnew⟩
    · rintro ⟨hname, hperm⟩
      exact ext_of_perm hname.symm ((perm_putAmong hnew).trans hperm.symm)

/-- Inserting fails exactly when the name stands there, and tells the name. -/
theorem insert_eq_error_iff {fault : MapError} :
    m.insert a = .error fault ↔ a.name ∈ m.areas.map Area.name ∧ fault = .duplicateName a.name := by
  rw [insert_eq, List.mem_map]
  split
  · next htaken => rw [Except.error.injEq, and_iff_right htaken, eq_comm]
  · next hfree => simp [hfree]

/-- A new name can always be inserted. -/
theorem exists_insert (h : ∀ b ∈ m.areas, b.name ≠ a.name) : ∃ built, m.insert a = .ok built := by
  refine ⟨m.put a, ?_⟩
  rw [insert_eq, if_neg]
  rintro ⟨b, hb, heq⟩
  exact h b hb heq

/-! ## A run of insertions -/

/-- One insertion moves its area from the list to the map, and the two together stay the same. -/
theorem perm_append_of_insert (h : m.insert a = .ok built) (areas : List Area) :
    (built.areas ++ areas).Perm (m.areas ++ a :: areas) := by
  obtain ⟨-, -, hperm⟩ := insert_eq_ok_iff.1 h
  exact (hperm.append_right areas).trans List.perm_middle.symm

/-- A run that succeeds met no name twice, and its map holds all the areas. -/
theorem perm_of_foldlM_insert (h : areas.foldlM insert m = .ok built) :
    ((m.areas ++ areas).map Area.name).Nodup ∧ built.name = m.name ∧
      built.areas.Perm (m.areas ++ areas) := by
  induction areas generalizing m with
  | nil =>
    obtain rfl := Except.ok.inj h
    rw [List.append_nil]
    exact ⟨m.nodup_names, rfl, List.Perm.refl _⟩
  | cons a areas ih =>
    rw [List.foldlM_cons] at h
    cases hinsert : m.insert a with
    | error e =>
      rw [hinsert] at h
      cases h
    | ok next =>
      rw [hinsert] at h
      obtain ⟨hnodup, hname, hperm⟩ := ih h
      have hmove := perm_append_of_insert hinsert areas
      obtain ⟨-, hnext, -⟩ := insert_eq_ok_iff.1 hinsert
      exact ⟨((hmove.map Area.name).nodup_iff).1 hnodup, hname.trans hnext, hperm.trans hmove⟩

/-- Areas with new and different names can be inserted one after another. -/
theorem exists_foldlM_insert (h : ((m.areas ++ areas).map Area.name).Nodup) :
    ∃ built, areas.foldlM insert m = .ok built := by
  induction areas generalizing m with
  | nil => exact ⟨m, rfl⟩
  | cons a areas ih =>
    have hnew : ∀ b ∈ m.areas, b.name ≠ a.name := by
      intro b hb
      rw [List.map_append, List.nodup_append] at h
      exact h.2.2 _ (List.mem_map_of_mem hb) _ (List.mem_map_of_mem List.mem_cons_self)
    obtain ⟨next, hinsert⟩ := exists_insert hnew
    have hmove := perm_append_of_insert hinsert areas
    rw [List.foldlM_cons, hinsert]
    exact ih (((hmove.map Area.name).nodup_iff).2 h)

/-- A run of insertions succeeds exactly when all names differ, and then holds all the areas. -/
theorem foldlM_insert_eq_ok_iff :
    areas.foldlM insert m = .ok built ↔
      ((m.areas ++ areas).map Area.name).Nodup ∧ built.name = m.name ∧
        built.areas.Perm (m.areas ++ areas) := by
  constructor
  · exact perm_of_foldlM_insert
  · rintro ⟨hnodup, hname, hperm⟩
    obtain ⟨other, hother⟩ := exists_foldlM_insert hnodup
    obtain ⟨-, hotherName, hotherPerm⟩ := perm_of_foldlM_insert hother
    rw [hother]
    exact congrArg Except.ok
      (ext_of_perm (hotherName.trans hname.symm) (hotherPerm.trans hperm.symm))

end FlashMap

end FlashSeal
