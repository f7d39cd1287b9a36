/-
FlashSeal.Proofs.TamperEvidence — an image that verifies against a seal is the sealed image.

A seal is the hash offset and the digest that an embedding reported.  Whatever image carries a
region with that offset and that digest, and verifies, is byte for byte the image that the embedding
left, or it gives two different strings with one digest (`eq_or_collision_of_verify`).  The
collision is exhibited, never excluded: nothing is assumed of the digest function.

The window that the hash leaves out is what has to be right.  Its 32 bytes are pinned by the region
that was decoded from the image (`Region.slice_hashOffset_of_decode_take`), every other byte by the
digest, and the two together are the whole image (`Bytes.eq_of_slice_eq_of_blanked_eq`).
-/
import FlashSeal.Proofs.SealRoundTrip

namespace FlashSeal

variable {digest : Bytes → Digest}

/-- A region verifies exactly when its digest is the digest of the blanked image. -/
theorem digest_eq_of_verify {region : Region} {image : Bytes}
    (h : ((verify region digest).on image).1 = .ok true) :
    region.hashOffset + digestLength ≤ image.length ∧
      digest (image.blanked region.hashOffset) = region.hash := by
  rw [verify_on] at h
  split at h
  · next hin => exact ⟨hin, of_decide_eq_true (Except.ok.inj h)⟩
  · cases h

/-- A region that reading or searching returns stores the digest that stands in the image. -/
theorem slice_of_read_or_find {image : Bytes} {m : FlashMap} {r : Region}
    (h : Region.read image m = .ok r ∨ Region.find image = .ok r) :
    image.slice r.hashOffset digestLength = r.hash.bytes := by
  rcases h with h | h
  · obtain ⟨boot, -, -, hdecode, -⟩ := Region.read_eq_ok_iff.1 h
    exact Region.slice_hashOffset_of_decode_take hdecode
  · obtain ⟨stop, -, hdecode, -⟩ := Region.find_eq_ok_iff.1 h
    exact Region.slice_hashOffset_of_decode_take hdecode

/-- An image that shows a seal's hash offset and digest and verifies is the sealed image, or the two
blanked images are different strings with one digest. -/
theorem eq_or_collision_of_verify {m other : FlashMap} {image left found : Bytes} {p : Placement}
    {r : Region} (hseal : (embed m digest).on image = (.ok p, left))
    (hr : Region.read found other = .ok r ∨ Region.find found = .ok r)
    (hoffset : r.hashOffset = p.hashOffset) (hhash : r.hash = p.hash)
    (hverify : ((verify r digest).on found).1 = .ok true) :
    found = left ∨
      (left.blanked p.hashOffset ≠ found.blanked p.hashOffset ∧
        digest (left.blanked p.hashOffset) = digest (found.blanked p.hashOffset)) := by
  obtain ⟨s, -, rfl, rfl⟩ := exists_sealing hseal
  obtain ⟨hin, hdigest⟩ := digest_eq_of_verify hverify
  have hslice := slice_of_read_or_find hr
  rw [hoffset] at hin hdigest hslice
  rw [hhash] at hdigest hslice
  have hsame : digest (s.after.blanked s.placement.hashOffset)
      = digest (found.blanked s.placement.hashOffset) := by
    rw [hdigest]
    exact s.hash_eq.symm
  by_cases hblanked : s.after.blanked s.placement.hashOffset = found.blanked s.placement.hashOffset
  · left
    exact Bytes.eq_of_slice_eq_of_blanked_eq hin s.hashOffset_le (hslice.trans s.slice_after.symm)
      hblanked.symm
  · right
    exact ⟨hblanked, hsame⟩

/-- A map that knows the boot loader area only, and it by another start. -/
def bootOnlyMap : FlashMap where
  areas := [⟨"FLASH_AREA_BOOTLOADER", 9, 2, 4, 74⟩]
  ascending := by decide

/-- A digest function that tells nothing apart. -/
def dullDigest (_ : Bytes) : Digest := bootDigest

/-- The sealed image with another first byte. -/
def forgedImage : Bytes := (bootImageWith bootDigest).set 0 0x77

/-- Under such a digest the forged image carries the seal and verifies, and the two blanked images are a
collision. -/
theorem eq_or_collision_of_verify_bootImage :
    (embed twoAreaMap dullDigest).on bootImage
        = (.ok ⟨4, 74, 38, bootDigest⟩, bootImageWith bootDigest) ∧
      Region.read forgedImage bootOnlyMap = .ok (.current 4 twoAreaRecords bootDigest) ∧
      ((verify (.current 4 twoAreaRecords bootDigest) dullDigest).on forgedImage).1 = .ok true ∧
      forgedImage ≠ bootImageWith bootDigest ∧
      (bootImageWith bootDigest).blanked 38 ≠ forgedImage.blanked 38 ∧
      dullDigest ((bootImageWith bootDigest).blanked 38) = dullDigest (forgedImage.blanked 38) := by
  have hseal : (embed twoAreaMap dullDigest).on bootImage
      = (.ok ⟨4, 74, 38, bootDigest⟩, bootImageWith bootDigest) := by
    rw [embed_on_of_place ofAreas_twoAreaMap place_bootImage]
    cbv
  have hread : Region.read forgedImage bootOnlyMap
      = .ok (.current 4 twoAreaRecords bootDigest) := by
    cbv
  have hverify : ((verify (.current 4 twoAreaRecords bootDigest) dullDigest).on
      forgedImage).1 = .ok true := by
    decide +kernel
  have hforged : forgedImage ≠ bootImageWith bootDigest := by decide +kernel
  have hcollision := (eq_or_collision_of_verify hseal (.inl hread) rfl rfl hverify).resolve_left hforged
  exact ⟨hseal, hread, hverify, hforged, hcollision⟩

end FlashSeal
