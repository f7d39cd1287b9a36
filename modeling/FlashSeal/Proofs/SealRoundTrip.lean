/-
FlashSeal.Proofs.SealRoundTrip — what was embedded is read back and verifies.

The image left by an embedding, cut at the end of the boot loader area, ends in the region that was
written, so decoding gives that region (`Sealing.decode_take`) and reading with the same map
returns it (`Sealing.read_after`).  Its digest is the digest of the blanked image by the way it was
made, so verifying holds (`Sealing.verify_after`).

`read_verify_of_embed` puts these together for every map and every image.  Nothing is asked of the
map beyond that embedding succeeded: an area that does not fit its record, a missing boot loader or
an image that is too short are failures of the embedding.
-/
import FlashSeal.Proofs.RegionSearch
import FlashSeal.Proofs.Sealing

namespace FlashSeal

variable {digest : Bytes → Digest} {m : FlashMap}

namespace Sealing

variable (s : Sealing digest m)

/-- The image's front part up to the end of the boot loader area ends in the region. -/
theorem take_after : s.after.take s.boot.stop = s.front ++ s.region.write := by
  refine List.take_left' ?_
  rw [List.length_append, length_write_region, s.stop_eq]

theorem decode_take : Region.decode (s.after.take s.boot.stop) = .ok s.region := by
  rw [take_after]
  exact Region.decode_append_write s.lawful_region rfl

theorem read_after : Region.read s.after m = .ok s.region := by
  exact Region.read_eq_ok_iff.2 ⟨s.boot, s.boot_eq, s.stop_le_after, s.decode_take, s.offset_le⟩

/-- The digest stands in the image where the placement says. -/
theorem slice_after : s.after.slice s.region.hashOffset digestLength = s.hash.bytes :=
  Region.slice_hashOffset_of_decode_take s.decode_take

theorem hashOffset_le : s.region.hashOffset + digestLength ≤ s.after.length := by
  rw [length_after, length_before, ← s.stop_eq, s.lawful_region.hashOffset_eq, digestLength]
  simp only [region, Region.current]
  omega

theorem verify_after : (verify s.region digest).on s.after = (.ok true, s.after) := by
  have hsealed : digest (s.after.blanked s.region.hashOffset) = s.region.hash := s.hash_eq.symm
  rw [verify_on, if_pos s.hashOffset_le, decide_eq_true hsealed]

end Sealing

/-- Reading an image back after embedding gives the region that was written: it lies where the
placement says and ends where the boot loader area ends, records the map's areas in emission order
and stores the digest of the blanked image, so that verifying holds. -/
theorem read_verify_of_embed {image left : Bytes} {p : Placement}
    (h : (embed m digest).on image = (.ok p, left)) :
    ∃ boot r, m.bootLoader? = some boot ∧ Region.read left m = .ok r ∧
      r.offset = p.regionOffset ∧ r.length = p.regionLength ∧
      r.stop = boot.offset.toNat + boot.size.toNat ∧
      r.hashOffset = p.hashOffset ∧ r.hash = p.hash ∧ r.header = ⟨1, 0xFF, 0xFFFF⟩ ∧
      List.Forall₂ AreaRecord.Describes r.areas m.emission ∧
      p.hash = digest (left.blanked p.hashOffset) ∧
      left.slice p.hashOffset digestLength = p.hash.bytes ∧
      (verify r digest).on left = (.ok true, left) := by
  obtain ⟨s, rfl, rfl, rfl⟩ := exists_sealing h
  have hlength : s.region.length = 46 + 14 * s.records.length := s.lawful_region.length_eq
  have hstop : s.region.stop = s.boot.offset.toNat + s.boot.size.toNat := by
    rw [Region.stop, hlength]
    exact s.stop_eq
  exact ⟨s.boot, s.region, s.boot_eq, s.read_after, rfl, hlength, hstop, rfl, rfl, rfl,
    s.describes, s.hash_eq, s.slice_after, s.verify_after⟩

theorem read_verify_of_embed_bootImage :
    ∃ r, Region.read (bootImageWith bootDigest) twoAreaMap = .ok r ∧
      r.offset = 4 ∧ r.stop = 78 ∧ r.hash = bootDigest ∧
      (verify r).on (bootImageWith bootDigest) = (.ok true, bootImageWith bootDigest) := by
  obtain ⟨boot, r, hboot, hread, hoffset, -, hstop, -, hhash, -, -, -, -, hverify⟩ :=
    read_verify_of_embed embed_bootImage
  obtain rfl : (⟨"FLASH_AREA_BOOTLOADER", 3, 0, 2, 76⟩ : Area) = boot := by
    apply Option.some.inj
    rw [← hboot]
    rfl
  exact ⟨r, hread, hoffset, hstop, hhash, hverify⟩

end FlashSeal
