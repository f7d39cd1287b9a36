/-
FlashSeal.Proofs.Sealing — what embedding does to an image.

A successful embedding is taken apart in a `Sealing`.  Before, the image was bytes in front, an
erased window that ends where the boot loader area ends, and bytes behind; after, it is the same
bytes around the region of the map's areas, and the region stores the digest of that very image
with the digest's own 32 bytes read as zeroes.  `exists_sealing` finds the parts of every success,
and `embed_on_of_place` makes a success of every region that finds its place, so filling in the
digest is never what fails.

The hash offsets that an embedding passes along meet in `exists_sealing`: the one of the encoded
region, counted from its start, the absolute one that placing gives, and the one that stands in a
decoded region are the same place in the image.
-/
import FlashSeal.Proofs.Encoding
import FlashSeal.Proofs.ImageWork

namespace FlashSeal

variable {digest : Bytes → Digest} {m : FlashMap} {image left : Bytes} {p : Placement}

/-- The parts of a successful embedding. -/
structure Sealing (digest : Bytes → Digest) (m : FlashMap) where
  boot : Area
  records : List AreaRecord
  front : Bytes
  back : Bytes
  hash : Digest
  boot_eq : m.bootLoader? = some boot
  describes : List.Forall₂ AreaRecord.Describes records m.emission
  fits : 46 + 14 * records.length < UInt16.size
  offset_le : boot.offset.toNat ≤ front.length
  stop_eq : front.length + (46 + 14 * records.length) = boot.stop
  hash_eq : hash = digest (Bytes.blanked
    (front ++ (Region.current front.length records hash).write ++ back)
    (Region.current front.length records hash).hashOffset)

namespace Sealing

/-- The region that an embedding writes. -/
def region (s : Sealing digest m) : Region := .current s.front.length s.records s.hash

/-- The image before the embedding. -/
def before (s : Sealing digest m) : Bytes :=
  s.front ++ erased (46 + 14 * s.records.length) ++ s.back

/-- The image after the embedding. -/
def after (s : Sealing digest m) : Bytes := s.front ++ s.region.write ++ s.back

/-- What the embedding reports. -/
def placement (s : Sealing digest m) : Placement :=
  ⟨s.front.length, 46 + 14 * s.records.length, s.region.hashOffset, s.hash⟩

end Sealing

/-! ## From placing to embedding -/

/-- The digest's window lies in the image as soon as the region does. -/
theorem hashOffset_fits {region : Encoded} {hashOffset : Nat}
    (hregion : Encoded.ofAreas m.emission = .ok region)
    (hplace : (place region m).on image = (.ok hashOffset, left)) :
    hashOffset + digestLength ≤ left.length := by
  obtain ⟨records, -, -, rfl⟩ := Encoded.ofAreas_eq_ok_iff.1 hregion
  obtain ⟨boot, front, back, -, -, -, -, rfl, rfl⟩ := exists_place hplace
  simp only [List.length_append, Region.length_write, digestLength]
  have : (Region.current 0 records .zero).areas.length = records.length := rfl
  omega

/-- Once the region found its place, embedding succeeds, and all that is added is the digest. -/
theorem embed_on_of_place {region : Encoded} {hashOffset : Nat}
    (hregion : Encoded.ofAreas m.emission = .ok region)
    (hplace : (place region m).on image = (.ok hashOffset, left)) :
    (embed m digest).on image =
      (.ok ⟨hashOffset - region.hashOffset, region.length, hashOffset,
          digest (left.blanked hashOffset)⟩,
        left.overwrite hashOffset (digest (left.blanked hashOffset)).bytes) := by
  simp only [embed, Work.on_bind, Work.on_ofExcept, hregion, hplace, fillHash_on,
    if_pos (hashOffset_fits hregion hplace), Work.on_pure]

/-- Embedding fails with the fault of writing the region, and leaves the image alone. -/
theorem embed_on_of_ofAreas_error {e : RegionError} (h : Encoded.ofAreas m.emission = .error e) :
    (embed m digest).on image = (.error e, image) := by
  simp only [embed, Work.on_bind, Work.on_ofExcept, h]

/-- Embedding fails with the fault of placing the region, and leaves the image alone. -/
theorem embed_on_of_place_error {region : Encoded} {e : RegionError}
    (hregion : Encoded.ofAreas m.emission = .ok region)
    (hplace : (place region m).on image = (.error e, left)) :
    (embed m digest).on image = (.error e, image) := by
  simp only [embed, Work.on_bind, Work.on_ofExcept, hregion, hplace,
    (place_left_of_error hplace).1]

/-- Embedding succeeds exactly when the region is written and finds its place. -/
theorem embed_eq_ok_iff :
    (embed m digest).on image = (.ok p, left) ↔
      ∃ region hashOffset placed, Encoded.ofAreas m.emission = .ok region ∧
        (place region m).on image = (.ok hashOffset, placed) ∧
        p = ⟨hashOffset - region.hashOffset, region.length, hashOffset,
          digest (placed.blanked hashOffset)⟩ ∧
        left = placed.overwrite hashOffset (digest (placed.blanked hashOffset)).bytes := by
  constructor
  · intro h
    cases hregion : Encoded.ofAreas m.emission with
    | error e =>
      rw [embed_on_of_ofAreas_error hregion] at h
      cases h
    | ok region =>
      rcases hplace : (place region m).on image with ⟨e | hashOffset, placed⟩
      · rw [embed_on_of_place_error hregion hplace] at h
        cases h
      · rw [embed_on_of_place hregion hplace] at h
        obtain ⟨hp, hleft⟩ := Prod.mk.inj h
        exact ⟨region, hashOffset, placed, rfl, hplace, (Except.ok.inj hp).symm, hleft.symm⟩
  · rintro ⟨region, hashOffset, placed, hregion, hplace, rfl, rfl⟩
    exact embed_on_of_place hregion hplace

/-- Embedding fails exactly when writing the region or placing it does. -/
theorem embed_eq_error_iff {e : RegionError} :
    ((embed m digest).on image).1 = .error e ↔
      Encoded.ofAreas m.emission = .error e ∨
        ∃ region, Encoded.ofAreas m.emission = .ok region ∧
          ((place region m).on image).1 = .error e := by
  cases hregion : Encoded.ofAreas m.emission with
  | error e' => simp [embed_on_of_ofAreas_error hregion]
  | ok region =>
    rcases hplace : (place region m).on image with ⟨e' | hashOffset, placed⟩
    · simp [embed_on_of_place_error hregion hplace, hplace]
    · simp [embed_on_of_place hregion hplace, hplace]

/-! ## The parts of a success -/

/-- A region that found its place gives the parts of an embedding, whatever the digest of the image
turns out to be. -/
theorem exists_sealing_of_place {region : Encoded} {hashOffset : Nat}
    (hregion : Encoded.ofAreas m.emission = .ok region)
    (hplace : (place region m).on image = (.ok hashOffset, left)) :
    ∃ s : Sealing digest m, image = s.before ∧
      left.overwrite hashOffset (digest (left.blanked hashOffset)).bytes = s.after ∧
      ⟨hashOffset - region.hashOffset, region.length, hashOffset,
        digest (left.blanked hashOffset)⟩ = s.placement := by
  have hin := hashOffset_fits hregion hplace
  obtain ⟨records, hdescribes, hfits, rfl⟩ := Encoded.ofAreas_eq_ok_iff.1 hregion
  obtain ⟨boot, front, back, hboot, hoffset, hstop, himage, hplaced, hhash⟩ := exists_place hplace
  have hlength : (Encoded.mk (Region.current 0 records .zero).write
      (6 + 14 * records.length)).length = 46 + 14 * records.length := Region.length_write _
  rw [hlength] at hstop himage ⊢
  generalize hd : digest (left.blanked hashOffset) = d
  have hlawful : (Region.current front.length records .zero).Lawful :=
    Region.lawful_current (AreaRecord.headers_of_describes hdescribes) hfits
  have hat : hashOffset = (Region.current front.length records d).hashOffset := by
    rw [hhash]
    simp only [Region.current]
    omega
  have hafter : left.overwrite hashOffset d.bytes
      = front ++ (Region.current front.length records d).write ++ back := by
    rw [hplaced, hat]
    exact Region.overwrite_hashOffset hlawful rfl d
  -- The digest was taken before it was stored, but its own bytes are blanked either way.
  have hseal : d = digest (Bytes.blanked
      (front ++ (Region.current front.length records d).write ++ back)
      (Region.current front.length records d).hashOffset) := by
    rw [← hafter, ← hat, Bytes.blanked_overwrite hin d.length_bytes, hd]
  refine ⟨⟨boot, records, front, back, d, hboot, hdescribes, hfits, hoffset, hstop, hseal⟩,
    himage, hafter, ?_⟩
  rw [Sealing.placement, Sealing.region, ← hat, hhash, Nat.add_sub_cancel]

/-- Every successful embedding has its parts. -/
theorem exists_sealing (h : (embed m digest).on image = (.ok p, left)) :
    ∃ s : Sealing digest m, image = s.before ∧ left = s.after ∧ p = s.placement := by
  obtain ⟨region, hashOffset, placed, hregion, hplace, rfl, rfl⟩ := embed_eq_ok_iff.1 h
  exact exists_sealing_of_place hregion hplace

namespace Sealing

variable (s : Sealing digest m)

/-- The region as it was placed, before the digest was known. -/
def encoded : Encoded := ⟨(Region.current 0 s.records .zero).write, 6 + 14 * s.records.length⟩

theorem ofAreas_emission : Encoded.ofAreas m.emission = .ok s.encoded :=
  Encoded.ofAreas_eq_ok_iff.2 ⟨s.records, s.describes, s.fits, rfl⟩

theorem length_encoded : s.encoded.length = 46 + 14 * s.records.length :=
  Region.length_write _

theorem lawful_region : s.region.Lawful :=
  Region.lawful_current (AreaRecord.headers_of_describes s.describes) s.fits

theorem length_write_region : s.region.write.length = 46 + 14 * s.records.length :=
  Region.length_write _

theorem length_before : s.before.length = s.boot.stop + s.back.length := by
  rw [before, List.length_append, List.length_append, length_erased, s.stop_eq]

/-- The image after is the image before with the region written over its window. -/
theorem after_eq_overwrite : s.after = s.before.overwrite s.front.length s.region.write :=
  (Bytes.overwrite_append rfl (by rw [length_erased, length_write_region])).symm

theorem window_le : s.front.length + s.region.write.length ≤ s.before.length := by
  rw [length_write_region, s.stop_eq, length_before]
  omega

theorem length_after : s.after.length = s.before.length := by
  rw [after_eq_overwrite, Bytes.length_overwrite s.window_le]

/-- The image reaches the end of the boot loader area. -/
theorem stop_le_after : s.boot.stop ≤ s.after.length := by
  rw [length_after, length_before]
  exact Nat.le_add_right _ _

/-- A byte that embedding changed lies in the region and was erased. -/
theorem erased_of_getElem?_ne {i : Nat} (hne : s.after[i]? ≠ s.before[i]?) :
    s.front.length ≤ i ∧ i < s.front.length + (46 + 14 * s.records.length) ∧
      s.before[i]? = some erasedByte := by
  rw [after_eq_overwrite] at hne
  obtain ⟨hlow, hhigh⟩ := Bytes.mem_window_of_getElem?_ne s.window_le hne
  rw [length_write_region] at hhigh
  refine ⟨hlow, hhigh, ?_⟩
  rw [before, Bytes.getElem?_append_window rfl hlow (by rwa [length_erased]), erased,
    List.getElem?_replicate, if_pos (by omega)]

end Sealing

/-! ## A small image -/

/-- A map whose names are not in the order in which a region records the areas. -/
def twoAreaMap : FlashMap where
  areas := [⟨"FLASH_AREA_BOOTLOADER", 3, 0, 2, 76⟩, ⟨"FLASH_AREA_IMAGE_0", 1, 1, 0x8000, 0x4000⟩]
  ascending := by decide

def twoAreaRecords : List AreaRecord :=
  [⟨⟨2, 12⟩, 1, 1, 0xFFFF, 0x8000, 0x4000⟩, ⟨⟨2, 12⟩, 3, 0, 0xFFFF, 2, 76⟩]

/-- Four bytes that reach into the boot loader area, and nothing written behind them. -/
def bootImage : Bytes := List.replicate 4 0x3C ++ erased 79

/-- The image around a region with this digest. -/
def bootImageWith (hash : Digest) : Bytes :=
  List.replicate 4 0x3C ++ (Region.current 4 twoAreaRecords hash).write ++ erased 5

/-- The digest that seals the image. -/
def bootDigest : Digest where
  bytes := [
    0x7C, 0xA3, 0xCD, 0x5C, 0x8A, 0xF1, 0x7F, 0x09, 0xCC, 0x88, 0x8C, 0x02, 0xFA, 0x40, 0xEF, 0x1A,
    0x25, 0x7A, 0x27, 0x63, 0x43, 0xB4, 0x52, 0x8B, 0xE1, 0x90, 0xFD, 0x43, 0xDA, 0x8D, 0x99, 0xC3]
  length_bytes := rfl

theorem emission_twoAreaMap :
    twoAreaMap.emission =
      [⟨"FLASH_AREA_IMAGE_0", 1, 1, 0x8000, 0x4000⟩, ⟨"FLASH_AREA_BOOTLOADER", 3, 0, 2, 76⟩] := by
  simp [FlashMap.emission, twoAreaMap, List.mergeSort, List.MergeSort.Internal.splitInTwo,
    Area.precedes]

theorem ofAreas_twoAreaMap :
    Encoded.ofAreas twoAreaMap.emission
      = .ok ⟨(Region.current 0 twoAreaRecords .zero).write, 34⟩ := by
  rw [emission_twoAreaMap]
  rfl

theorem bootLoader?_twoAreaMap :
    twoAreaMap.bootLoader? = some ⟨"FLASH_AREA_BOOTLOADER", 3, 0, 2, 76⟩ := by
  cbv

theorem place_bootImage :
    (place ⟨(Region.current 0 twoAreaRecords .zero).write, 34⟩ twoAreaMap).on bootImage
      = (.ok 38, bootImageWith .zero) := by
  rw [place_on bootLoader?_twoAreaMap]
  cbv

theorem embed_bootImage :
    (embed twoAreaMap).on bootImage = (.ok ⟨4, 74, 38, bootDigest⟩, bootImageWith bootDigest) := by
  have hdigest : sha256 ((bootImageWith .zero).blanked 38) = bootDigest := by decide +kernel
  rw [embed_on_of_place ofAreas_twoAreaMap place_bootImage, hdigest]
  cbv

/-! ## All or nothing -/

/-- A failed embedding leaves the image alone, and never fails at the digest. -/
theorem embed_left_of_error {e : RegionError} (h : (embed m digest).on image = (.error e, left)) :
    left = image ∧ ∀ offset length, e ≠ .hashOutOfRange offset length := by
  cases hregion : Encoded.ofAreas m.emission with
  | error e' =>
    rw [embed_on_of_ofAreas_error hregion] at h
    cases h
    obtain ⟨field, value, rfl⟩ := Encoded.exists_of_ofAreas_eq_error hregion
    exact ⟨rfl, by simp⟩
  | ok region =>
    rcases hplace : (place region m).on image with ⟨e' | hashOffset, placed⟩
    · rw [embed_on_of_place_error hregion hplace] at h
      cases h
      exact ⟨rfl, (place_left_of_error hplace).2⟩
    · rw [embed_on_of_place hregion hplace] at h
      cases h

/-- Embedding fails with the first fault of writing and placing the region, and with no other; it
then leaves the image alone.  Else it succeeds, and changes erased bytes at the end of the boot
loader area only. -/
theorem embed_all_or_nothing (digest : Bytes → Digest) (m : FlashMap) (image : Bytes) :
    (∀ e, Encoded.ofAreas m.emission = .error e → ((embed m digest).on image).1 = .error e) ∧
    (∀ region e, Encoded.ofAreas m.emission = .ok region →
      ((place region m).on image).1 = .error e → ((embed m digest).on image).1 = .error e) ∧
    (∀ region hashOffset placed, Encoded.ofAreas m.emission = .ok region →
      (place region m).on image = (.ok hashOffset, placed) →
        (∃ d, ((fillHash hashOffset digest).on placed).1 = .ok d) ∧
        ∃ p, ((embed m digest).on image).1 = .ok p) ∧
    (∀ offset length, ((embed m digest).on image).1 ≠ .error (.hashOutOfRange offset length)) ∧
    (∀ e left, (embed m digest).on image = (.error e, left) → left = image) ∧
    (∀ p left, (embed m digest).on image = (.ok p, left) →
      ∃ boot, m.bootLoader? = some boot ∧
        left.length = image.length ∧
        boot.offset.toNat ≤ p.regionOffset ∧
        p.regionOffset + p.regionLength = boot.offset.toNat + boot.size.toNat ∧
        boot.offset.toNat + boot.size.toNat ≤ image.length ∧
        ∀ i : Nat, left[i]? ≠ image[i]? →
          p.regionOffset ≤ i ∧ i < p.regionOffset + p.regionLength ∧ image[i]? = some 0xFF) := by
  refine ⟨?_, ?_, ?_, ?_, ?_, ?_⟩
  · intro e he
    rw [embed_on_of_ofAreas_error he]
  · intro region e hregion he
    rw [embed_on_of_place_error hregion (Prod.ext he rfl)]
  · intro region hashOffset placed hregion hplace
    rw [fillHash_on, if_pos (hashOffset_fits hregion hplace), embed_on_of_place hregion hplace]
    exact ⟨⟨_, rfl⟩, ⟨_, rfl⟩⟩
  · intro offset length h
    exact (embed_left_of_error (Prod.ext h rfl)).2 offset length rfl
  · intro e left h
    exact (embed_left_of_error h).1
  · intro p left h
    obtain ⟨s, rfl, rfl, rfl⟩ := exists_sealing h
    refine ⟨s.boot, s.boot_eq, s.length_after, s.offset_le, s.stop_eq, ?_, ?_⟩
    · rw [s.length_before, Area.stop]
      exact Nat.le_add_right _ _
    · intro i hi
      exact s.erased_of_getElem?_ne hi

/-- The image after its last byte in the boot loader area was written. -/
def writtenImage : Bytes := bootImage.set 77 0

/-- A map whose one area has an id that no record can hold. -/
def wideIdMap : FlashMap where
  areas := [⟨"FLASH_AREA_BOOTLOADER", 300, 0, 2, 76⟩]
  ascending := by decide

theorem embed_all_or_nothing_bootImage :
    ((embed wideIdMap).on bootImage).1 = .error (.doesNotFit .areaId 300) ∧
    ((embed twoAreaMap).on writtenImage).1 = .error (.spaceOccupied 4) ∧
    (∃ p, ((embed twoAreaMap).on bootImage).1 = .ok p) ∧
    ((embed twoAreaMap).on writtenImage).2 = writtenImage ∧
    (bootImageWith bootDigest).length = bootImage.length := by
  have hwide : Encoded.ofAreas wideIdMap.emission = .error (.doesNotFit .areaId 300) := by
    rw [FlashMap.emission, wideIdMap, List.mergeSort_singleton]
    rfl
  have hplace : ((place ⟨(Region.current 0 twoAreaRecords .zero).write, 34⟩ twoAreaMap).on
      writtenImage).1 = .error (.spaceOccupied 4) := by
    rw [place_on bootLoader?_twoAreaMap]
    cbv
  obtain ⟨hencoding, -, -, -, -, -⟩ := embed_all_or_nothing sha256 wideIdMap bootImage
  obtain ⟨-, hplacing, -, -, hback, -⟩ := embed_all_or_nothing sha256 twoAreaMap writtenImage
  obtain ⟨-, -, hfilling, -, -, hsuccess⟩ := embed_all_or_nothing sha256 twoAreaMap bootImage
  have hwritten := hplacing _ _ ofAreas_twoAreaMap hplace
  obtain ⟨boot, -, hlength, -⟩ := hsuccess _ _ embed_bootImage
  exact ⟨hencoding _ hwide, hwritten, (hfilling _ _ _ ofAreas_twoAreaMap place_bootImage).2,
    hback _ _ (Prod.ext hwritten rfl), hlength⟩

end FlashSeal
