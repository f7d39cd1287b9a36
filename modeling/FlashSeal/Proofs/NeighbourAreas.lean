/-
FlashSeal.Proofs.NeighbourAreas — embedding with a well-formed map leaves every other area alone.

A region is placed inside the boot loader area (`Sealing.offset_le`, `Sealing.stop_eq`), and in a
well-formed map no other area has an address of that one.  So no byte of another area on the boot
loader's device is written, and of the ranges that the region itself describes only the boot loader's
own meets the region: it holds it entirely.

Placing a region never looks at the other areas, and validating never looks at an image; the two meet in
`Sealing.misses_region`.
-/
import FlashSeal.Proofs.MapGeometry
import FlashSeal.Proofs.SealRoundTrip

namespace FlashSeal

variable {digest : Bytes → Digest} {m : FlashMap}

/-! ## Ranges -/

namespace AreaRecord

/-- The range that the record describes holds every offset from `start` to `stop`. -/
def RangeHolds (r : AreaRecord) (start stop : Nat) : Prop :=
  r.offset.toNat ≤ start ∧ stop ≤ r.offset.toNat + r.size.toNat

/-- The range that the record describes holds no offset from `start` to `stop`. -/
def RangeMisses (r : AreaRecord) (start stop : Nat) : Prop :=
  ∀ n, r.offset.toNat ≤ n → n < r.offset.toNat + r.size.toNat → ¬ (start ≤ n ∧ n < stop)

end AreaRecord

/-! ## The region and the areas -/

namespace Sealing

variable {a : Area} (s : Sealing digest m)

theorem boot_mem : s.boot ∈ m.areas := List.mem_of_find?_eq_some s.boot_eq

/-- Another area of the device ends before the region or begins behind it. -/
theorem misses_region (hm : m.WellFormed) (ha : a ∈ m.areas) (hne : a ≠ s.boot)
    (hdevice : a.device = s.boot.device) :
    a.stop ≤ s.front.length ∨ s.front.length + (46 + 14 * s.records.length) ≤ a.offset.toNat := by
  have hapart := Area.stop_le_or_stop_le (hm.size_pos a ha) (hm.size_pos s.boot s.boot_mem) hdevice
    (hm.not_collides ha s.boot_mem hne)
  have hlow := s.offset_le
  have hhigh := s.stop_eq
  omega

/-- No byte of another area of the device is changed. -/
theorem getElem?_after_of_contains (hm : m.WellFormed) (ha : a ∈ m.areas) (hne : a ≠ s.boot)
    (hdevice : a.device = s.boot.device) {x : UInt32} (hx : a.contains x = true) :
    s.after[x.toNat]? = s.before[x.toNat]? := by
  by_contra hchanged
  obtain ⟨hlow, hhigh, -⟩ := s.erased_of_getElem?_ne hchanged
  have hin := Area.contains_iff.1 hx
  have hapart := s.misses_region hm ha hne hdevice
  omega

/-- The boot loader's record holds the region. -/
theorem rangeHolds_of_describes {record : AreaRecord} (h : record.Describes s.boot) :
    record.RangeHolds s.front.length (s.front.length + (46 + 14 * s.records.length)) := by
  have hstop : s.boot.stop = s.boot.offset.toNat + s.boot.size.toNat := rfl
  unfold AreaRecord.RangeHolds
  rw [h.offset_eq, h.size_eq, s.stop_eq, hstop]
  exact ⟨s.offset_le, le_refl _⟩

/-- The record of another area misses the region, if it names the boot loader's device. -/
theorem rangeMisses_of_describes (hm : m.WellFormed) (ha : a ∈ m.areas) (hne : a ≠ s.boot)
    {record : AreaRecord} (h : record.Describes a)
    (hdevice : record.deviceId.toNat = s.boot.device.toNat) :
    record.RangeMisses s.front.length (s.front.length + (46 + 14 * s.records.length)) := by
  have hsame : a.device = s.boot.device :=
    UInt32.toNat_inj.1 (h.deviceId_eq.symm.trans hdevice)
  have hapart := s.misses_region hm ha hne hsame
  have hstop : a.stop = a.offset.toNat + a.size.toNat := rfl
  intro n hlow hhigh
  rw [h.offset_eq] at hlow hhigh
  rw [h.size_eq] at hhigh
  omega

theorem describes_mem :
    List.Forall₂ (fun record a => a ∈ m.areas ∧ record.Describes a) s.records m.emission := by
  have h := (List.forall₂_and_left (R := fun a record => AreaRecord.Describes record a)
    m.emission s.records).2 ⟨fun a ha => m.perm_emission.mem_iff.1 ha, s.describes.flip⟩
  exact h.flip

end Sealing

/-- Embedding with a map that was accepted changes no byte of another area on the boot loader's device.
The region read back describes the areas one by one: the boot loader's range holds the region, and every
other range on its device misses it. -/
theorem embed_leaves_other_areas {image left : Bytes} {p : Placement}
    (hvalid : m.validate = .ok ()) (h : (embed m digest).on image = (.ok p, left)) :
    ∃ boot ∈ m.emission, m.bootLoader? = some boot ∧
      (∀ a ∈ m.areas, a ≠ boot → a.device = boot.device →
        ∀ x : UInt32, a.contains x = true → left[x.toNat]? = image[x.toNat]?) ∧
      ∃ r, Region.read left m = .ok r ∧
        List.Forall₂ (fun record a => record.Describes a ∧
          (a = boot → record.RangeHolds p.regionOffset (p.regionOffset + p.regionLength)) ∧
          (a ≠ boot → record.deviceId.toNat = boot.device.toNat →
            record.RangeMisses p.regionOffset (p.regionOffset + p.regionLength)))
          r.areas m.emission := by
  have hm := FlashMap.validate_eq_ok_iff.1 hvalid
  obtain ⟨s, rfl, rfl, rfl⟩ := exists_sealing h
  refine ⟨s.boot, m.perm_emission.mem_iff.2 s.boot_mem, s.boot_eq, ?_, s.region, s.read_after, ?_⟩
  · intro a ha hne hdevice x hx
    exact s.getElem?_after_of_contains hm ha hne hdevice hx
  · refine s.describes_mem.imp ?_
    intro record a ⟨ha, hdescribes⟩
    refine ⟨hdescribes, ?_, ?_⟩
    · rintro rfl
      exact s.rangeHolds_of_describes hdescribes
    · intro hne hdevice
      exact s.rangeMisses_of_describes hm ha hne hdescribes hdevice

/-- A boot loader area and a log area that begins where it ends. -/
def logMap : FlashMap where
  areas := [⟨"FLASH_AREA_BOOTLOADER", 0, 0, 2, 76⟩, ⟨"LOG", 16, 0, 78, 5⟩]
  ascending := by decide

def logRecords : List AreaRecord :=
  [⟨⟨2, 12⟩, 0, 0, 0xFFFF, 2, 76⟩, ⟨⟨2, 12⟩, 16, 0, 0xFFFF, 78, 5⟩]

/-- An image whose log area is written. -/
def logImage : Bytes := List.replicate 4 0x3C ++ erased 74 ++ [1, 2, 3, 4, 5]

theorem embed_leaves_other_areas_logImage :
    logMap.validate = .ok () ∧
      ((embed logMap fun _ => .zero).on logImage).1 = .ok ⟨4, 74, 38, .zero⟩ ∧
      ((embed logMap fun _ => .zero).on logImage).2[80]? = some 3 ∧
      ∃ r, Region.read ((embed logMap fun _ => .zero).on logImage).2 logMap = .ok r ∧
        r.areas.length = 2 := by
  have hvalid : logMap.validate = .ok () := by cbv
  have hboot : logMap.bootLoader? = some ⟨"FLASH_AREA_BOOTLOADER", 0, 0, 2, 76⟩ := by cbv
  have hemission : logMap.emission =
      [⟨"FLASH_AREA_BOOTLOADER", 0, 0, 2, 76⟩, ⟨"LOG", 16, 0, 78, 5⟩] := by cbv
  have hregion : Encoded.ofAreas logMap.emission
      = .ok ⟨(Region.current 0 logRecords .zero).write, 34⟩ := by
    rw [hemission]
    rfl
  have hplace : (place ⟨(Region.current 0 logRecords .zero).write, 34⟩ logMap).on logImage
      = (.ok 38, logImage.overwrite 4 (Region.current 0 logRecords .zero).write) := by
    rw [place_on hboot]
    cbv
  have hok : ((embed logMap fun _ => .zero).on logImage).1 = .ok ⟨4, 74, 38, .zero⟩ := by
    rw [embed_on_of_place hregion hplace]
    rfl
  obtain ⟨boot, -, hsome, hbytes, r, hread, hareas⟩ :=
    embed_leaves_other_areas hvalid (Prod.ext hok rfl)
  obtain rfl := Option.some.inj (hboot.symm.trans hsome)
  refine ⟨hvalid, hok, ?_, r, hread, hareas.length_eq.trans ?_⟩
  · exact hbytes ⟨"LOG", 16, 0, 78, 5⟩ (by decide) (by decide) rfl 80 rfl
  · rw [logMap.perm_emission.length_eq]
    rfl

end FlashSeal
