/-
FlashSeal.Proofs.RegionBound — how long the region of a validated map can be.

Nowhere is a map asked how many areas it has.  That a region never outgrows what its footer can count
follows from two rules that do not know of each other: the ids of a validated map differ, and a record
holds an id in one byte.  So a validated map either has an id that no record can hold, or at most 256
areas (`FlashMap.size_le_of_ids_fit`), and their region has 3630 bytes at most.
-/
import FlashSeal.Proofs.MapGeometry
import FlashSeal.Proofs.PlaceOutcome

namespace FlashSeal

variable {m : FlashMap} {region : Encoded} {boot : Area} {image : Bytes} {e : RegionError}

namespace FlashMap

theorem length_emission (m : FlashMap) : m.emission.length = m.size :=
  m.perm_emission.length_eq

theorem forall_mem_emission_iff {P : Area → Prop} :
    (∀ a ∈ m.emission, P a) ↔ ∀ a ∈ m.areas, P a := by
  simp only [m.perm_emission.mem_iff]

/-- Areas whose ids differ and fit one byte each are no more than a byte has values. -/
theorem size_le_of_ids_fit (hids : (m.areas.map Area.id).Nodup)
    (hfits : ∀ a ∈ m.areas, a.id.toNat ≤ 255) : m.size ≤ 256 := by
  have hnodup : ((m.areas.map Area.id).map UInt32.toNat).Nodup :=
    hids.map fun _ _ => UInt32.toNat_inj.1
  have hsubset : (m.areas.map Area.id).map UInt32.toNat ⊆ List.range 256 := by
    intro n hn
    simp only [List.map_map, List.mem_map, Function.comp_apply] at hn
    obtain ⟨a, ha, rfl⟩ := hn
    exact List.mem_range.2 (Nat.lt_succ_of_le (hfits a ha))
  have hlength := (List.subperm_of_subset hnodup hsubset).length_le
  rwa [List.length_map, List.length_map, List.length_range] at hlength

theorem size_le_of_validate (hvalid : m.validate = .ok ()) (hfits : ∀ a ∈ m.areas, a.FitsRecord) :
    m.size ≤ 256 :=
  size_le_of_ids_fit (validate_eq_ok_iff.1 hvalid).ids_differ fun a ha => (hfits a ha).1

end FlashMap

/-! ## Writing the region of a validated map -/

/-- The footer of a validated map's region can count the bytes, if its areas have records at all. -/
theorem ofAreas_ne_regionSize (hvalid : m.validate = .ok ()) (value : Nat) :
    Encoded.ofAreas m.emission ≠ .error (.doesNotFit .regionSize value) := by
  intro h
  rcases Encoded.ofAreas_eq_error_iff.1 h with hrecords | ⟨hfits, hlong, -⟩
  · obtain ⟨front, a, back, -, -, ha⟩ := AreaRecord.mapM_ofArea_eq_error_iff.1 hrecords
    simp [AreaRecord.ofArea_eq_error_iff] at ha
  · have hsize := FlashMap.size_le_of_validate hvalid (FlashMap.forall_mem_emission_iff.1 hfits)
    rw [m.length_emission] at hlong
    omega

theorem exists_ofAreas_iff (hvalid : m.validate = .ok ()) :
    (∃ region, Encoded.ofAreas m.emission = .ok region) ↔ ∀ a ∈ m.areas, a.FitsRecord := by
  rw [← FlashMap.forall_mem_emission_iff]
  constructor
  · intro ⟨region, hregion⟩
    obtain ⟨records, hdescribes, -⟩ := Encoded.ofAreas_eq_ok_iff.1 hregion
    exact (AreaRecord.forall₂_describes_iff_eq_map.1 hdescribes).1
  · intro hfits
    cases hregion : Encoded.ofAreas m.emission with
    | ok region => exact ⟨region, rfl⟩
    | error e =>
      rcases Encoded.ofAreas_eq_error_iff.1 hregion with hrecords | ⟨-, -, rfl⟩
      · obtain ⟨front, a, back, hemission, -, ha⟩ := AreaRecord.mapM_ofArea_eq_error_iff.1 hrecords
        obtain ⟨r, hr⟩ := AreaRecord.exists_ofArea_iff.2 (hfits a (by simp [hemission]))
        rw [ha] at hr
        cases hr
      · exact absurd hregion (ofAreas_ne_regionSize hvalid _)

theorem length_of_ofAreas (h : Encoded.ofAreas m.emission = .ok region) :
    region.length = 46 + 14 * m.size := by
  obtain ⟨records, hdescribes, -, rfl⟩ := Encoded.ofAreas_eq_ok_iff.1 h
  rw [← m.length_emission, ← hdescribes.length_eq]
  exact Region.length_write _

/-! ## Placing it -/

/-- A region that fits its area can only find the image too short or the place written. -/
theorem place_eq_error_of_fits (hboot : m.bootLoader? = some boot)
    (hfit : region.length ≤ boot.size.toNat) (h : ((place region m).on image).1 = .error e) :
    (image.length < boot.stop ∧ e = .areaOutsideImage boot.stop image.length) ∨
      (boot.stop ≤ image.length ∧ ∃ start, e = .spaceOccupied start) := by
  rw [place_on hboot, if_neg (Nat.not_lt.2 hfit)] at h
  split at h
  · next hshort => exact .inl ⟨hshort, (Except.error.inj h).symm⟩
  · next hreach =>
    split at h
    · cases h
    · exact .inr ⟨Nat.not_lt.1 hreach, _, (Except.error.inj h).symm⟩

/-! ## A map at the bound -/

/-- An area of the full map: a device of its own, and a name longer than those before it. -/
def fullArea (i : Nat) : Area where
  name := String.ofList (Area.bootLoaderName.toList ++ List.replicate i 'A')
  id := UInt32.ofNat i
  device := UInt32.ofNat i
  offset := 0
  size := 3630

/-- A map with an area for every id that a record can hold. -/
def fullMap : FlashMap where
  areas := (List.range 256).map fullArea
  ascending := by
    refine List.pairwise_map.2 (List.pairwise_lt_range.imp fun {i j} hij => ?_)
    obtain ⟨k, rfl⟩ := Nat.exists_eq_add_of_lt hij
    simp only [fullArea, String.lt_iff_toList_lt, String.toList_ofList]
    refine List.append_left_lt ?_
    have hlonger : List.replicate i 'A' ++ [] < List.replicate i 'A' ++ List.replicate (k + 1) 'A' :=
      List.append_left_lt (List.nil_lt_cons _ _)
    rwa [List.append_nil, ← List.replicate_add, ← Nat.add_assoc] at hlonger

theorem toNat_ofNat_of_mem_range {i : Nat} (hi : i ∈ List.range 256) :
    (UInt32.ofNat i).toNat = i :=
  UInt32.toNat_ofNat_of_lt' (Nat.lt_trans (List.mem_range.1 hi) (by decide))

theorem wellFormed_fullMap : fullMap.WellFormed where
  size_pos := by
    intro a ha
    obtain ⟨i, hi, rfl⟩ := List.mem_map.1 ha
    show (0 : UInt32) < 3630
    decide
  stop_le := by
    intro a ha
    obtain ⟨i, hi, rfl⟩ := List.mem_map.1 ha
    show (0 : UInt32).toNat + (3630 : UInt32).toNat ≤ UInt32.size
    decide
  ids_differ := by
    rw [fullMap, List.map_map]
    refine List.Nodup.map_on ?_ List.nodup_range
    intro i hi j hj hid
    rw [← toNat_ofNat_of_mem_range hi, ← toNat_ofNat_of_mem_range hj]
    exact congrArg UInt32.toNat hid
  contains_unique := by
    intro device x a ha b hb hadevice hbdevice _ _
    obtain ⟨i, hi, rfl⟩ := List.mem_map.1 ha
    obtain ⟨j, hj, rfl⟩ := List.mem_map.1 hb
    have hsame : i = j := by
      rw [← toNat_ofNat_of_mem_range hi, ← toNat_ofNat_of_mem_range hj]
      exact congrArg UInt32.toNat (hadevice.trans hbdevice.symm)
    rw [hsame]

/-! ## The bound -/

/-- A validated map's region is never too long for its footer.  It is written exactly if every id and
every device fits one byte, and then the map has 256 areas at most and the region 3630 bytes.  With that
much room in the boot loader area, sealing can only fail where the image ends before the area or has
written bytes in the region's place. -/
theorem validated_region_within_bound (m : FlashMap) (hvalid : m.validate = .ok ()) :
    (∀ value, Encoded.ofAreas m.emission ≠ .error (.doesNotFit .regionSize value)) ∧
    ((∃ region, Encoded.ofAreas m.emission = .ok region) ↔
      ∀ a ∈ m.areas, a.id.toNat ≤ 255 ∧ a.device.toNat ≤ 255) ∧
    (∀ region, Encoded.ofAreas m.emission = .ok region →
      m.size ≤ 256 ∧ region.length = 46 + 14 * m.size ∧ region.length ≤ 46 + 14 * 256) ∧
    (∀ boot, m.bootLoader? = some boot → 46 + 14 * 256 ≤ boot.size.toNat →
      (∀ a ∈ m.areas, a.id.toNat ≤ 255 ∧ a.device.toNat ≤ 255) →
      ∀ digest image e, ((embed m digest).on image).1 = .error e →
        (image.length < boot.offset.toNat + boot.size.toNat ∧
          e = .areaOutsideImage (boot.offset.toNat + boot.size.toNat) image.length) ∨
        (boot.offset.toNat + boot.size.toNat ≤ image.length ∧ ∃ start, e = .spaceOccupied start)) := by
  have hbound {region : Encoded} (hregion : Encoded.ofAreas m.emission = .ok region) :
      m.size ≤ 256 ∧ region.length = 46 + 14 * m.size ∧ region.length ≤ 46 + 14 * 256 := by
    have hsize := FlashMap.size_le_of_validate hvalid ((exists_ofAreas_iff hvalid).1 ⟨_, hregion⟩)
    have hlength := length_of_ofAreas hregion
    exact ⟨hsize, hlength, by omega⟩
  refine ⟨ofAreas_ne_regionSize hvalid, exists_ofAreas_iff hvalid, fun _ => hbound, ?_⟩
  intro boot hboot hroom hfits digest image e h
  obtain ⟨region, hregion⟩ := (exists_ofAreas_iff hvalid).2 hfits
  rcases embed_eq_error_iff.1 h with hfault | ⟨other, hother, hplace⟩
  · rw [hregion] at hfault
    cases hfault
  · obtain ⟨-, -, hlength⟩ := hbound hother
    exact place_eq_error_of_fits hboot (Nat.le_trans hlength hroom) hplace

theorem validated_region_within_bound_fullMap :
    ∃ region, Encoded.ofAreas fullMap.emission = .ok region ∧ fullMap.size = 256 ∧
      region.length = 3630 ∧
      ∀ image e, ((embed fullMap).on image).1 = .error e → 3630 ≤ image.length →
        ∃ start, e = .spaceOccupied start := by
  have hfits : ∀ a ∈ fullMap.areas, a.id.toNat ≤ 255 ∧ a.device.toNat ≤ 255 := by
    intro a ha
    obtain ⟨i, hi, rfl⟩ := List.mem_map.1 ha
    have hlt := List.mem_range.1 hi
    simp only [fullArea, toNat_ofNat_of_mem_range hi]
    omega
  have hsize : fullMap.size = 256 := by simp [FlashMap.size, fullMap]
  have hboot : fullMap.bootLoader? = some (fullArea 0) := by decide +kernel
  obtain ⟨-, hwritten, hbound, hseal⟩ :=
    validated_region_within_bound fullMap (FlashMap.validate_eq_ok_iff.2 wellFormed_fullMap)
  obtain ⟨region, hregion⟩ := hwritten.2 hfits
  obtain ⟨-, hlength, -⟩ := hbound region hregion
  rw [hsize] at hlength
  refine ⟨region, hregion, hsize, hlength, ?_⟩
  intro image e h hlong
  rcases hseal _ hboot (by decide) hfits sha256 image e h with ⟨hshort, -⟩ | ⟨-, hoccupied⟩
  · exact absurd hshort (Nat.not_lt.2 hlong)
  · exact hoccupied

end FlashSeal
