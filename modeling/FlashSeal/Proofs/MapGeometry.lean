/-
FlashSeal.Proofs.MapGeometry — a map is accepted exactly when its areas go together.

What areas must be is said on addresses, without the comparisons that the code makes: no area is empty
or passes the end of the address space, ids differ, and an address of a device lies in one area at most
(`FlashMap.WellFormed`).  `validate_iff_wellFormed` says that validating decides just this, and that the
fault it reports is one that the map has (`FlashMap.HasFault`).

Two facts carry it.  The crossing test of two non-empty areas finds a common address whenever there is
one, since the larger of the two offsets is common (`Area.overlaps_iff_collides`).  And the walk over
pairs stops at the first pair of positions, in their lexicographic order, whose areas conflict
(`FlashMap.exists_firstConflict`).
-/
import Mathlib.Data.List.Nodup
import Mathlib.Data.List.Pairwise
import Mathlib.Data.List.Permutation
import FlashSeal.Proofs.EmissionOrder

namespace FlashSeal

namespace Area

variable {a b : Area} {x : UInt32}

/-! ## Two areas -/

theorem contains_iff : a.contains x = true ↔ a.offset.toNat ≤ x.toNat ∧ x.toNat < a.stop := by
  simp [contains]

/-- The two areas have an address of one device in common. -/
def Collides (a b : Area) : Prop :=
  a.device = b.device ∧ ∃ x, a.contains x = true ∧ b.contains x = true

/-- The two areas cannot stand in one map. -/
def Conflicts (a b : Area) : Prop := a.id = b.id ∨ a.Collides b

theorem Collides.symm (h : a.Collides b) : b.Collides a := by
  obtain ⟨hdevice, x, ha, hb⟩ := h
  exact ⟨hdevice.symm, x, hb, ha⟩

theorem overlaps_iff :
    a.overlaps b = true ↔
      a.device = b.device ∧ a.offset.toNat < b.stop ∧ b.offset.toNat < a.stop := by
  simp [overlaps, and_assoc]

theorem overlaps_comm (a b : Area) : a.overlaps b = b.overlaps a := by
  rw [Bool.eq_iff_iff, overlaps_iff, overlaps_iff]
  constructor
  · intro ⟨hdevice, hab, hba⟩
    exact ⟨hdevice.symm, hba, hab⟩
  · intro ⟨hdevice, hba, hab⟩
    exact ⟨hdevice.symm, hab, hba⟩

theorem offset_lt_stop (h : 0 < a.size) : a.offset.toNat < a.stop := by
  have : 0 < a.size.toNat := UInt32.lt_iff_toNat_lt.1 h
  simp only [stop]
  omega

/-- Non-empty areas cross exactly when they have an address in common. -/
theorem overlaps_iff_collides (ha : 0 < a.size) (hb : 0 < b.size) :
    a.overlaps b = true ↔ a.Collides b := by
  have hastop := offset_lt_stop ha
  have hbstop := offset_lt_stop hb
  simp only [overlaps_iff, Collides, contains_iff]
  refine and_congr_right fun _ => ?_
  constructor
  · intro ⟨hab, hba⟩
    -- The area that begins later begins inside the other.
    by_cases hle : a.offset.toNat ≤ b.offset.toNat
    · exact ⟨b.offset, ⟨hle, hba⟩, le_refl _, hbstop⟩
    · exact ⟨a.offset, ⟨le_refl _, hastop⟩, by omega, hab⟩
  · intro ⟨x, hax, hbx⟩
    omega

/-- Areas without a common address lie one behind the other. -/
theorem stop_le_or_stop_le (ha : 0 < a.size) (hb : 0 < b.size) (hdevice : a.device = b.device)
    (h : ¬ a.Collides b) : a.stop ≤ b.offset.toNat ∨ b.stop ≤ a.offset.toNat := by
  rw [← overlaps_iff_collides ha hb, overlaps_iff] at h
  by_contra hcross
  exact h ⟨hdevice, by omega, by omega⟩

end Area

namespace FlashMap

variable {m : FlashMap} {a b : Area} {areas : List Area} {e : MapError}

/-! ## Single areas -/

theorem areaFault?_eq_none_iff :
    areaFault? a = none ↔ 0 < a.size ∧ a.stop ≤ UInt32.size := by
  unfold areaFault?
  split
  · next h => simp [h]
  · next h =>
    have hpos : 0 < a.size := UInt32.pos_iff_ne_zero.2 h
    split
    · next hstop => simp [hpos, hstop]
    · next hstop => simp [hpos, Nat.not_lt.1 hstop]

/-- An area by itself is faulty for one of two reasons. -/
theorem areaFault?_eq_some (h : areaFault? a = some e) :
    e = .emptyArea a.name ∧ a.size = 0 ∨ e = .pastAddressSpace a.name ∧ UInt32.size < a.stop := by
  unfold areaFault? at h
  split at h
  · next hsize => exact .inl ⟨(Option.some.inj h).symm, hsize⟩
  · split at h
    · next hstop => exact .inr ⟨(Option.some.inj h).symm, hstop⟩
    · cases h

/-! ## Pairs -/

theorem pairFault?_eq_none_iff (ha : 0 < a.size) (hb : 0 < b.size) :
    pairFault? a b = none ↔ ¬ a.Conflicts b := by
  unfold pairFault? Area.Conflicts
  rw [← Area.overlaps_iff_collides ha hb]
  split
  · next hid => simp [hid]
  · next hid => simp [hid]

/-- Two areas are at fault for one of two reasons, and an id comes before an address. -/
theorem pairFault?_eq_some (ha : 0 < a.size) (hb : 0 < b.size) (h : pairFault? a b = some e) :
    e = .duplicateId a.id a.name b.name ∧ a.id = b.id ∨
      e = .overlapping a.name b.name ∧ a.id ≠ b.id ∧ a.Collides b := by
  rw [← Area.overlaps_iff_collides ha hb]
  unfold pairFault? at h
  split at h
  · next hid => exact .inl ⟨(Option.some.inj h).symm, hid⟩
  · next hid =>
    split at h
    · next hover => exact .inr ⟨(Option.some.inj h).symm, hid, hover⟩
    · cases h

/-- The areas `a` and `b` stand at positions `i` and `j` and conflict, and no earlier pair of positions
holds areas that do. -/
structure FirstConflict (areas : List Area) (i j : Nat) (a b : Area) : Prop where
  lt : i < j
  first_at : areas[i]? = some a
  second_at : areas[j]? = some b
  conflicts : a.Conflicts b
  none_before : ∀ k l c d, toLex (k, l) < toLex (i, j) → k < l →
    areas[k]? = some c → areas[l]? = some d → ¬ c.Conflicts d

/-- The pairs of the first area, in their order, come before all others. -/
theorem firstConflict_cons_of_mem {before after : List Area}
    (hbefore : ∀ c ∈ before, ¬ a.Conflicts c) (h : a.Conflicts b) :
    FirstConflict (a :: (before ++ b :: after)) 0 (before.length + 1) a b where
  lt := Nat.succ_pos _
  first_at := rfl
  second_at := by simp
  conflicts := h
  none_before := by
    intro k l c d hlex hkl hc hd
    simp only [Prod.Lex.toLex_lt_toLex, Nat.not_lt_zero, false_or] at hlex
    obtain ⟨rfl, hl⟩ := hlex
    obtain ⟨l, rfl⟩ : ∃ n, l = n + 1 := ⟨l - 1, by omega⟩
    obtain rfl : a = c := by simpa using hc
    have hin : l < before.length := by omega
    rw [List.getElem?_cons_succ, List.getElem?_append_left hin] at hd
    exact hbefore d (List.mem_of_getElem? hd)

/-- A conflict behind an area that has none is one position further on. -/
theorem FirstConflict.cons {i j : Nat} {c : Area} (h : FirstConflict areas i j a b)
    (hc : ∀ d ∈ areas, ¬ c.Conflicts d) : FirstConflict (c :: areas) (i + 1) (j + 1) a b where
  lt := Nat.succ_lt_succ h.lt
  first_at := by simpa using h.first_at
  second_at := by simpa using h.second_at
  conflicts := h.conflicts
  none_before := by
    intro k l c' d hlex hkl hc' hd
    obtain ⟨l, rfl⟩ : ∃ n, l = n + 1 := ⟨l - 1, by omega⟩
    rw [List.getElem?_cons_succ] at hd
    cases k with
    | zero =>
      obtain rfl : c = c' := by simpa using hc'
      exact hc d (List.mem_of_getElem? hd)
    | succ k =>
      rw [List.getElem?_cons_succ] at hc'
      refine h.none_before k l c' d ?_ (by omega) hc' hd
      simp only [Prod.Lex.toLex_lt_toLex] at hlex ⊢
      omega

theorem firstPairFault?_eq_none_iff (hpos : ∀ a ∈ areas, 0 < a.size) :
    firstPairFault? areas = none ↔ areas.Pairwise (fun a b => ¬ a.Conflicts b) := by
  induction areas with
  | nil => simp [firstPairFault?]
  | cons a rest ih =>
    obtain ⟨ha, hrest⟩ := List.forall_mem_cons.1 hpos
    rw [firstPairFault?, Option.or_eq_none_iff, ih hrest, List.pairwise_cons, List.findSome?_eq_none_iff]
    refine and_congr_left fun _ => forall₂_congr fun b hb => ?_
    exact pairFault?_eq_none_iff ha (hrest b hb)

/-- The walk over pairs stops at the first conflict. -/
theorem exists_firstConflict (hpos : ∀ a ∈ areas, 0 < a.size) (h : firstPairFault? areas = some e) :
    ∃ i j a b, FirstConflict areas i j a b ∧ pairFault? a b = some e := by
  induction areas with
  | nil => cases h
  | cons c rest ih =>
    obtain ⟨hc, hrest⟩ := List.forall_mem_cons.1 hpos
    unfold firstPairFault? at h
    cases hfind : rest.findSome? (pairFault? c) with
    | some e' =>
      rw [hfind, Option.some_or] at h
      obtain rfl := Option.some.inj h
      obtain ⟨before, b, after, rfl, hb, hbefore⟩ := List.findSome?_eq_some_iff.1 hfind
      have hpair : ∀ d ∈ before ++ b :: after, pairFault? c d = none ↔ ¬ c.Conflicts d :=
        fun d hd => pairFault?_eq_none_iff hc (hrest d hd)
      refine ⟨0, before.length + 1, c, b, firstConflict_cons_of_mem ?_ ?_, hb⟩
      · intro d hd
        exact (hpair d (List.mem_append_left _ hd)).1 (hbefore d hd)
      · by_contra hno
        rw [← hpair b (by simp), hb] at hno
        cases hno
    | none =>
      rw [hfind, Option.none_or] at h
      obtain ⟨i, j, a, b, hfirst, hpair⟩ := ih hrest h
      refine ⟨i + 1, j + 1, a, b, hfirst.cons ?_, hpair⟩
      intro d hd
      exact (pairFault?_eq_none_iff hc (hrest d hd)).1 (List.findSome?_eq_none_iff.1 hfind d hd)

/-! ## Maps -/

/-- No area is empty, and none passes the end of the address space. -/
structure SoundAreas (m : FlashMap) : Prop where
  size_pos : ∀ a ∈ m.areas, 0 < a.size
  stop_le : ∀ a ∈ m.areas, a.offset.toNat + a.size.toNat ≤ UInt32.size

/-- What a map must be, said on addresses. -/
structure WellFormed (m : FlashMap) : Prop extends m.SoundAreas where
  ids_differ : (m.areas.map Area.id).Nodup
  contains_unique : ∀ device x : UInt32, ∀ a ∈ m.areas, ∀ b ∈ m.areas,
    a.device = device → b.device = device → a.contains x = true → b.contains x = true → a = b

/-- The map has this fault, and if it is one between two areas, theirs is the first conflict. -/
def HasFault (m : FlashMap) : MapError → Prop
  | .duplicateName _ => False
  | .emptyArea name => ∃ a ∈ m.areas, a.name = name ∧ a.size = 0
  | .pastAddressSpace name =>
    ∃ a ∈ m.areas, a.name = name ∧ UInt32.size < a.offset.toNat + a.size.toNat
  | .duplicateId id first second =>
    m.SoundAreas ∧ ∃ i j a b, FirstConflict m.emission i j a b ∧ a ≠ b ∧
      a.name = first ∧ b.name = second ∧ a.id = id ∧ b.id = id
  | .overlapping first second =>
    m.SoundAreas ∧ ∃ i j a b, FirstConflict m.emission i j a b ∧ a ≠ b ∧
      a.name = first ∧ b.name = second ∧ a.id ≠ b.id ∧ a.device = b.device ∧
      ∃ x, a.contains x = true ∧ b.contains x = true

theorem soundAreas_iff : m.SoundAreas ↔ m.areas.findSome? areaFault? = none := by
  simp only [List.findSome?_eq_none_iff, areaFault?_eq_none_iff]
  constructor
  · intro h a ha
    exact ⟨h.size_pos a ha, h.stop_le a ha⟩
  · intro h
    exact ⟨fun a ha => (h a ha).1, fun a ha => (h a ha).2⟩

/-- No two areas of the emission conflict exactly when no two areas of the map do. -/
theorem pairwise_emission_not_conflicts_iff :
    (m.emission.Pairwise fun a b => ¬ a.Conflicts b) ↔
      ∀ a ∈ m.areas, ∀ b ∈ m.areas, a ≠ b → ¬ a.Conflicts b := by
  have : Std.Symm fun a b : Area => ¬ a.Conflicts b :=
    ⟨fun _ _ h hba => h (hba.imp Eq.symm Area.Collides.symm)⟩
  simp only [← m.perm_emission.mem_iff]
  constructor
  · intro h a ha b hb hne
    exact h.forall ha hb hne
  · intro h
    exact m.nodup_emission.pairwise_of_forall_ne h

/-- Areas that are sound by themselves go together exactly when no two of them conflict. -/
theorem wellFormed_iff_pairwise (hsound : m.SoundAreas) :
    m.WellFormed ↔ m.emission.Pairwise fun a b => ¬ a.Conflicts b := by
  rw [pairwise_emission_not_conflicts_iff]
  constructor
  · intro h a ha b hb hne hconflict
    rcases hconflict with hid | ⟨hdevice, x, hax, hbx⟩
    · exact hne (List.inj_on_of_nodup_map h.ids_differ ha hb hid)
    · exact hne (h.contains_unique a.device x a ha b hb rfl hdevice.symm hax hbx)
  · intro h
    refine ⟨hsound, ?_, ?_⟩
    · refine (List.nodup_map_iff_inj_on (m.nodup_names.of_map Area.name)).2 ?_
      intro a ha b hb hid
      by_contra hne
      exact h a ha b hb hne (.inl hid)
    · intro device x a ha b hb hadevice hbdevice hax hbx
      by_contra hne
      exact h a ha b hb hne (.inr ⟨hadevice.trans hbdevice.symm, x, hax, hbx⟩)

/-- Different areas of a well-formed map have no address in common. -/
theorem WellFormed.not_collides (h : m.WellFormed) (ha : a ∈ m.areas) (hb : b ∈ m.areas)
    (hne : a ≠ b) : ¬ a.Collides b := by
  intro ⟨hdevice, x, hax, hbx⟩
  exact hne (h.contains_unique b.device x a ha b hb hdevice rfl hax hbx)

theorem size_pos_of_mem_emission (hsound : m.SoundAreas) : ∀ a ∈ m.emission, 0 < a.size :=
  fun a ha => hsound.size_pos a (m.perm_emission.mem_iff.1 ha)

theorem validate_of_soundAreas (hsound : m.SoundAreas) :
    m.validate =
      match firstPairFault? m.emission with
      | some fault => .error fault
      | none => .ok () := by
  cases hfault : firstPairFault? m.emission with
  | none => simp [validate, soundAreas_iff.1 hsound, hfault]
  | some fault => simp [validate, soundAreas_iff.1 hsound, hfault]

/-- An area that is not sound by itself is found before any pair is looked at. -/
theorem exists_of_not_soundAreas (hsound : ¬ m.SoundAreas) :
    ∃ e, m.validate = .error e ∧ ∃ a ∈ m.areas, areaFault? a = some e := by
  have hfault : m.areas.findSome? areaFault? ≠ none := fun h => hsound (soundAreas_iff.2 h)
  obtain ⟨e, he⟩ := Option.ne_none_iff_exists'.1 hfault
  refine ⟨e, ?_, List.exists_of_findSome?_eq_some he⟩
  rw [validate, he]
  rfl

theorem validate_eq_ok_iff : m.validate = .ok () ↔ m.WellFormed := by
  by_cases hsound : m.SoundAreas
  · rw [validate_of_soundAreas hsound, wellFormed_iff_pairwise hsound,
      ← firstPairFault?_eq_none_iff (size_pos_of_mem_emission hsound)]
    cases firstPairFault? m.emission <;> simp
  · obtain ⟨e, he, -⟩ := exists_of_not_soundAreas hsound
    rw [he]
    constructor
    · intro h
      cases h
    · intro h
      exact absurd h.toSoundAreas hsound

/-- The areas of the first conflict are two areas of the map. -/
theorem FirstConflict.ne {i j : Nat} (h : FirstConflict m.emission i j a b) : a ≠ b := by
  intro hab
  have hj : j < m.emission.length := (List.getElem?_eq_some_iff.1 h.second_at).1
  refine List.nodup_iff_getElem?_ne_getElem?.1 m.nodup_emission i j h.lt hj ?_
  rw [h.first_at, h.second_at, hab]

theorem hasFault_of_validate (h : m.validate = .error e) : m.HasFault e := by
  by_cases hsound : m.SoundAreas
  · rw [validate_of_soundAreas hsound] at h
    cases hfault : firstPairFault? m.emission with
    | none => rw [hfault] at h; cases h
    | some found =>
      rw [hfault] at h
      obtain rfl := Except.error.inj h
      have hpos := size_pos_of_mem_emission hsound
      obtain ⟨i, j, a, b, hfirst, hpair⟩ := exists_firstConflict hpos hfault
      have ha := hpos a (List.mem_of_getElem? hfirst.first_at)
      have hb := hpos b (List.mem_of_getElem? hfirst.second_at)
      rcases pairFault?_eq_some ha hb hpair with ⟨rfl, hid⟩ | ⟨rfl, hid, hdevice, haddress⟩
      · exact ⟨hsound, i, j, a, b, hfirst, hfirst.ne, rfl, rfl, rfl, hid.symm⟩
      · exact ⟨hsound, i, j, a, b, hfirst, hfirst.ne, rfl, rfl, hid, hdevice, haddress⟩
  · obtain ⟨found, hfound, a, ha, harea⟩ := exists_of_not_soundAreas hsound
    obtain rfl : found = e := Except.error.inj (hfound.symm.trans h)
    rcases areaFault?_eq_some harea with ⟨rfl, hsize⟩ | ⟨rfl, hstop⟩
    · exact ⟨a, ha, rfl, hsize⟩
    · exact ⟨a, ha, rfl, hstop⟩

/-- Validating accepts exactly the maps whose areas go together, and else reports a fault that the map
has.  The crossing test that it makes is symmetric, and it finds exactly the common addresses of
non-empty areas. -/
theorem validate_iff_wellFormed (m : FlashMap) :
    (m.validate = .ok () ↔ m.WellFormed) ∧
    (∀ e, m.validate = .error e → m.HasFault e) ∧
    (∀ a b : Area, a.overlaps b = b.overlaps a) ∧
    (∀ a b : Area, 0 < a.size → 0 < b.size → a.device = b.device →
      (a.overlaps b = true ↔ ∃ x, a.contains x = true ∧ b.contains x = true)) := by
  refine ⟨validate_eq_ok_iff, fun e => hasFault_of_validate, Area.overlaps_comm, ?_⟩
  intro a b ha hb hdevice
  rw [Area.overlaps_iff_collides ha hb, Area.Collides, and_iff_right hdevice]

/-- Areas that touch, the last of which ends where the address space ends. -/
def touchingMap : FlashMap where
  areas := [⟨"BODY", 2, 0, 0x10, 0xFFFFFFE0⟩, ⟨"FRONT", 9, 0, 0, 0x10⟩,
    ⟨"OTHER", 0, 1, 0, 0xFFFFFFFF⟩, ⟨"TAIL", 1, 0, 0xFFFFFFF0, 0x10⟩]
  ascending := by decide

/-- Areas of which `A` shares addresses with `B` and its id with `C`. -/
def crossedMap : FlashMap where
  areas := [⟨"A", 7, 0, 0x10, 0x10⟩, ⟨"B", 3, 0, 0x18, 0x10⟩, ⟨"C", 7, 1, 0, 4⟩]
  ascending := by decide

theorem validate_iff_wellFormed_crossedMap :
    touchingMap.WellFormed ∧ ¬ crossedMap.WellFormed ∧
      crossedMap.HasFault (.overlapping "B" "A") := by
  have htouching : touchingMap.validate = .ok () := by cbv
  have hcrossed : crossedMap.validate = .error (.overlapping "B" "A") := by cbv
  obtain ⟨hok, hfault, -, -⟩ := validate_iff_wellFormed crossedMap
  refine ⟨(validate_iff_wellFormed touchingMap).1.1 htouching, ?_, hfault _ hcrossed⟩
  intro h
  cases hcrossed.symm.trans (hok.2 h)

end FlashMap

end FlashSeal
