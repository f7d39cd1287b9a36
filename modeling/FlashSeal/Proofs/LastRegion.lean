/-
FlashSeal.Proofs.LastRegion — searching an image gives the last region in it.

"Last" is said without the search: of all front parts of the image that decode, the longest counts.
`find_iff_last_readable` says that searching gives that region, that it fails only if no front part
decodes and then always in the same way, and that neither the look at the magic nor the least
length passes over an end that counts.

A map says where to look, so the region that it leads to may be passed over for a later one, and
for no other reason.
-/
import FlashSeal.Proofs.RegionSearch
import FlashSeal.Proofs.SealRoundTrip

namespace FlashSeal

namespace Region

variable {image : Bytes} {m : FlashMap} {r found : Region}

/-- Searching never gives a region that ends before the one that a map leads to. -/
theorem exists_find_of_read (h : read image m = .ok r) :
    ∃ found, find image = .ok found ∧ r.stop ≤ found.stop := by
  obtain ⟨boot, -, hle, hdecode, -⟩ := read_eq_ok_iff.1 h
  cases hfind : find image with
  | error e =>
    obtain ⟨-, hnone⟩ := find_eq_error_iff.1 hfind
    exact absurd hdecode (unreadable_iff.1 (hnone boot.stop hle) r)
  | ok found =>
    obtain ⟨stop, hstop, hfound, hlater⟩ := find_eq_ok_iff.1 hfind
    refine ⟨found, rfl, ?_⟩
    rw [stop_eq_of_decode_take hle hdecode, stop_eq_of_decode_take hstop hfound]
    -- Were the search's end the earlier one, the map's end would be a later one that decodes.
    by_contra hlt
    exact unreadable_iff.1 (hlater boot.stop (Nat.lt_of_not_le hlt) hle) r hdecode

/-- Searching and a map lead to one region exactly when no longer front part decodes. -/
theorem find_eq_read_iff (h : read image m = .ok r) (hfind : find image = .ok found) :
    found = r ↔
      ∀ later, r.stop < later → later ≤ image.length → Unreadable (image.take later) := by
  obtain ⟨boot, -, hle, hdecode, -⟩ := read_eq_ok_iff.1 h
  have hstop : r.stop = boot.stop := stop_eq_of_decode_take hle hdecode
  constructor
  · rintro rfl
    obtain ⟨stop, hstop, hfound, hlater⟩ := find_eq_ok_iff.1 hfind
    rw [stop_eq_of_decode_take hstop hfound]
    exact hlater
  · intro hlater
    rw [hstop] at hlater
    have hsame : find image = .ok r := find_eq_ok_iff.2 ⟨boot.stop, hle, hdecode, hlater⟩
    exact Except.ok.inj (hfind.symm.trans hsame)

/-- Erased bytes at the end end no region. -/
theorem unreadable_of_getLast?_erased {bs : Bytes} (h : bs.getLast? = some erasedByte) :
    Unreadable bs := by
  refine unreadable_iff.2 fun r hr => ?_
  rw [getLast?_of_decode hr] at h
  exact absurd h (by decide)

/-- A region with nothing but erased bytes behind it is the one that searching gives. -/
theorem find_of_erased_behind {stop : Nat} (hle : stop ≤ image.length)
    (hdecode : decode (image.take stop) = .ok r)
    (herased : ∀ b ∈ image.drop stop, b = erasedByte) : find image = .ok r := by
  refine find_eq_ok_iff.2 ⟨stop, hle, hdecode, ?_⟩
  intro later hlt hlater
  have hbyte : image[later - 1] ∈ image.drop stop := by
    refine List.mem_drop_iff_getElem.2 ⟨later - 1 - stop, by omega, ?_⟩
    congr 1
    omega
  refine unreadable_of_getLast?_erased ?_
  rw [Bytes.getLast?_take (by omega) hlater, List.getElem?_eq_getElem (by omega),
    herased _ hbyte]

/-- Searching gives a region exactly when some front part of the image decodes to it and no longer
one decodes, and fails, for want of a region, exactly when no front part decodes.  Every front part
that decodes ends where its region ends, and that end is a candidate.  What is found stands in the
image at its offsets, and what a map leads to is found unless a longer front part decodes. -/
theorem find_iff_last_readable (image : Bytes) :
    (∀ r, find image = .ok r ↔
      ∃ stop ≤ image.length, decode (image.take stop) = .ok r ∧
        ∀ later, stop < later → later ≤ image.length →
          ∃ e, decode (image.take later) = .error e) ∧
    (find image = .error .noRegion ↔
      ∀ stop ≤ image.length, ∃ e, decode (image.take stop) = .error e) ∧
    (∀ e, find image = .error e → e = .noRegion) ∧
    (∀ stop ≤ image.length, ∀ r, decode (image.take stop) = .ok r →
      r.stop = stop ∧ stop ∈ candidates image ∧ leastRegionLength ≤ stop ∧
        image.slice (stop - 4) 4 = magicBytes) ∧
    (∀ r, find image = .ok r →
      r.stop ≤ image.length ∧ decode (image.take r.stop) = .ok r ∧
        image.slice r.offset r.length = r.write ∧
        image.slice r.hashOffset digestLength = r.hash.bytes) ∧
    (∀ m r, read image m = .ok r →
      ∃ found, find image = .ok found ∧ r.stop ≤ found.stop ∧
        (found = r ↔ ∀ later, r.stop < later → later ≤ image.length →
          ∃ e, decode (image.take later) = .error e)) := by
  refine ⟨fun r => find_eq_ok_iff, ?_, ?_, ?_, ?_, ?_⟩
  · exact find_eq_error_iff.trans (and_iff_right rfl)
  · intro e he
    exact (find_eq_error_iff.1 he).1
  · intro stop hle r hr
    have hstop : r.stop = stop := stop_eq_of_decode_take hle hr
    have hmem := mem_candidates_of_decode hle hr
    obtain ⟨hleast, front, back, rfl, rfl⟩ := mem_candidates_iff.1 hmem
    refine ⟨hstop, hmem, hleast, ?_⟩
    rw [length_magicBytes, Nat.add_sub_cancel]
    exact Bytes.slice_append rfl length_magicBytes
  · intro r hr
    obtain ⟨stop, hle, hdecode, -⟩ := find_eq_ok_iff.1 hr
    have hstop : r.stop = stop := stop_eq_of_decode_take hle hdecode
    rw [hstop]
    exact ⟨hle, hdecode, slice_offset_of_decode_take hdecode,
      slice_hashOffset_of_decode_take hdecode⟩
  · intro m r hr
    obtain ⟨found, hfind, hle⟩ := exists_find_of_read hr
    exact ⟨found, hfind, hle, find_eq_read_iff hr hfind⟩

/-- The sealed image with one more magic behind it, which ends no region. -/
def strayImage : Bytes := bootImageWith bootDigest ++ magicBytes

theorem find_iff_last_readable_strayImage :
    87 ∈ candidates strayImage ∧ 78 ∈ candidates strayImage ∧
      (∃ e, decode (strayImage.take 87) = .error e) ∧
      find strayImage = .ok (.current 4 twoAreaRecords bootDigest) ∧
      strayImage.slice 38 digestLength = bootDigest.bytes := by
  obtain ⟨hlast, -, -, hcandidate, habsolute, hmap⟩ := find_iff_last_readable strayImage
  have hread : read strayImage twoAreaMap = .ok (.current 4 twoAreaRecords bootDigest) := by cbv
  have hfind : find strayImage = .ok (.current 4 twoAreaRecords bootDigest) := by cbv
  obtain ⟨found, hfound, -, hsame⟩ := hmap twoAreaMap _ hread
  obtain rfl : found = .current 4 twoAreaRecords bootDigest :=
    Except.ok.inj (hfound.symm.trans hfind)
  have hlater := hsame.1 rfl 87 (by decide) (by decide)
  obtain ⟨-, hdecode, -, hdigest⟩ := habsolute _ hfind
  obtain ⟨-, hmem, -, -⟩ := hcandidate 78 (by decide) _ hdecode
  exact ⟨by decide, hmem, hlater, hfind, hdigest⟩

end Region

end FlashSeal
