/-
FlashSeal.Proofs.SearchStability — a search does not see erased bytes behind an image.

Every region ends in the last byte of the magic, and that is not the erased byte.  So no end behind the
last written byte is one of a region, however many erased bytes follow: those in front of it decode as
they did before, and the search prefers the last of them as it did before (`find_append_erased`).

An image that was sealed is such an image if nothing was written behind the boot loader area.  Whatever
looks like a region in the code in front of the area's end, in the records or in the digest ends further
in front, so what was embedded is what the search gives (`Sealing.find_after`).
-/
import FlashSeal.Proofs.LastRegion

namespace FlashSeal

open Region

variable {image : Bytes} {k stop : Nat}

/-! ## Erased bytes behind an image -/

namespace Region

/-- If no region ends at a place in the image, none does once erased bytes stand behind the image: an
end past the image is the end of an erased byte. -/
theorem unreadable_take_append_erased (hle : stop ≤ (image ++ erased k).length)
    (h : stop ≤ image.length → Unreadable (image.take stop)) :
    Unreadable ((image ++ erased k).take stop) := by
  by_cases hin : stop ≤ image.length
  · rw [List.take_append_of_le_length hin]
    exact h hin
  · rw [List.length_append, length_erased] at hle
    refine unreadable_of_getLast?_erased ?_
    rw [Bytes.getLast?_take (by omega) (by rw [List.length_append, length_erased]; omega),
      Bytes.getElem?_append_erased (by omega) (by omega)]

/-- Searching does not see erased bytes behind an image. -/
theorem find_append_erased (image : Bytes) (k : Nat) : find (image ++ erased k) = find image := by
  cases hfind : find image with
  | ok r =>
    obtain ⟨stop, hle, hdecode, hlater⟩ := find_eq_ok_iff.1 hfind
    refine find_eq_ok_iff.2 ⟨stop, ?_, ?_, ?_⟩
    · rw [List.length_append]
      omega
    · rw [List.take_append_of_le_length hle, hdecode]
    · intro later hlt hend
      exact unreadable_take_append_erased hend (hlater later hlt)
  | error e =>
    obtain ⟨rfl, hnone⟩ := find_eq_error_iff.1 hfind
    exact find_eq_error_iff.2
      ⟨rfl, fun stop hend => unreadable_take_append_erased hend (hnone stop)⟩

end Region

/-! ## Erased bytes behind a seal -/

variable {digest : Bytes → Digest} {m : FlashMap}

namespace Sealing

variable (s : Sealing digest m)

/-- Searching gives the region that was embedded, if nothing was written behind it. -/
theorem find_after
    (hback : ∀ i, s.boot.stop ≤ i → i < s.after.length → s.after[i]? = some erasedByte) :
    find s.after = .ok s.region := by
  refine find_of_erased_behind s.stop_le_after s.decode_take ?_
  intro b hb
  obtain ⟨i, hi, rfl⟩ := List.mem_drop_iff_getElem.1 hb
  have hbyte := hback (s.boot.stop + i) (Nat.le_add_right _ _) (by omega)
  rw [List.getElem?_eq_getElem (by omega)] at hbyte
  exact Option.some.inj hbyte

end Sealing

/-- Erased bytes behind an image change nothing of what a search gives, be it a region or the failure.
And in an image that was sealed, with nothing but erased bytes behind the boot loader area, the search
gives what the map leads to: the region that was embedded, whatever stands in front of its end. -/
theorem find_stable_under_erased (digest : Bytes → Digest) :
    (∀ (image : Bytes) (k : Nat), find (image ++ erased k) = find image) ∧
    (∀ (m : FlashMap) (image left : Bytes) (p : Placement),
      (embed m digest).on image = (.ok p, left) →
      ∃ boot, m.bootLoader? = some boot ∧
        ((∀ i, boot.offset.toNat + boot.size.toNat ≤ i → i < left.length →
            left[i]? = some 0xFF) →
          find left = read left m ∧
          ∃ r, read left m = .ok r ∧ r.offset = p.regionOffset ∧ r.length = p.regionLength ∧
            r.hashOffset = p.hashOffset ∧ r.hash = p.hash)) := by
  refine ⟨find_append_erased, ?_⟩
  intro m image left p h
  obtain ⟨s, -, rfl, rfl⟩ := exists_sealing h
  refine ⟨s.boot, s.boot_eq, ?_⟩
  intro hback
  rw [s.find_after hback, s.read_after]
  exact ⟨rfl, s.region, rfl, rfl, s.lawful_region.length_eq, rfl, rfl⟩

/-- A map with an area whose offset and size are the magic. -/
def lureMap : FlashMap where
  areas := [⟨"FLASH_AREA_BOOTLOADER", 3, 0, 0, 134⟩,
    ⟨"FLASH_AREA_IMAGE_0", 1, 1, 0x3BB2A269, 0x3BB2A269⟩]
  ascending := by decide

def lureRecords : List AreaRecord :=
  [⟨⟨2, 12⟩, 1, 1, 0xFFFF, 0x3BB2A269, 0x3BB2A269⟩, ⟨⟨2, 12⟩, 3, 0, 0xFFFF, 0, 134⟩]

/-- A digest that ends as a footer does. -/
def lureDigest : Digest := ⟨List.replicate 24 0xA5 ++ Footer.write ⟨60, 0xFFFF, 0x3BB2A269⟩, rfl⟩

/-- A whole region stands where the boot loader's code should. -/
def lureImage : Bytes := oddPads.write ++ erased 79

/-- The image around a region with this digest. -/
def lureImageWith (hash : Digest) : Bytes :=
  oddPads.write ++ (Region.current 60 lureRecords hash).write ++ erased 5

theorem embed_lureImage :
    (embed lureMap fun _ => lureDigest).on lureImage
      = (.ok ⟨60, 74, 94, lureDigest⟩, lureImageWith lureDigest) := by
  have hboot : lureMap.bootLoader? = some ⟨"FLASH_AREA_BOOTLOADER", 3, 0, 0, 134⟩ := by cbv
  have hemission : lureMap.emission = lureMap.areas.reverse := by
    simp [FlashMap.emission, lureMap, List.mergeSort, List.MergeSort.Internal.splitInTwo,
      Area.precedes]
  have hregion : Encoded.ofAreas lureMap.emission
      = .ok ⟨(Region.current 0 lureRecords .zero).write, 34⟩ := by
    rw [hemission]
    rfl
  have hplace : (place ⟨(Region.current 0 lureRecords .zero).write, 34⟩ lureMap).on lureImage
      = (.ok 94, lureImageWith .zero) := by
    rw [place_on hboot]
    cbv
  have hlawful : (Region.current 60 lureRecords .zero).Lawful :=
    Region.lawful_current (by decide) (by decide)
  have hstored : (lureImageWith .zero).overwrite 94 lureDigest.bytes = lureImageWith lureDigest :=
    Region.overwrite_hashOffset hlawful rfl lureDigest
  rw [embed_on_of_place hregion hplace, hstored]
  rfl

theorem find_stable_under_erased_lureImage :
    (∃ r, decode ((lureImageWith lureDigest).take 60) = .ok r) ∧
      [60, 74, 78, 126, 134] ⊆ candidates (lureImageWith lureDigest) ∧
      ∃ r, find (lureImageWith lureDigest) = .ok r ∧ r.offset = 60 ∧ r.hash = lureDigest := by
  obtain ⟨-, hsealed⟩ := find_stable_under_erased fun _ => lureDigest
  obtain ⟨boot, hboot, herased⟩ := hsealed _ _ _ _ embed_lureImage
  obtain rfl : (⟨"FLASH_AREA_BOOTLOADER", 3, 0, 0, 134⟩ : Area) = boot := by
    apply Option.some.inj
    rw [← hboot]
    rfl
  have hback : ∀ i < 139, 134 ≤ i → (lureImageWith lureDigest)[i]? = some 0xFF := by decide
  obtain ⟨hsame, r, hread, hoffset, -, -, hhash⟩ := herased fun i hlow hhigh => hback i hhigh hlow
  exact ⟨⟨{ oddPads with offset := 0, hashOffset := 20 }, by cbv⟩, by decide,
    r, hsame.trans hread, hoffset, hhash⟩

end FlashSeal
