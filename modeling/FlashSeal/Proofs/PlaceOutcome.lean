/-
FlashSeal.Proofs.PlaceOutcome — where a region is placed, and when it is not.

Placing has five outcomes.  `place_outcome` gives the condition of each, in the order in which they
are looked at: no boot loader area, a region larger than the area, an area that ends behind the
image, a written byte in the window, and the region in its place.  A failure leaves the image
alone, and a success writes the region's bytes over the window and nothing else.

The guards are what makes the window one of the image: a region that fits the area starts in it,
and an area that the image reaches holds the window's end (`place_on_window`).  Of the region
nothing is asked, not even that it is one that was written for areas.
-/
import FlashSeal.Proofs.Sealing

namespace FlashSeal

variable {region : Encoded} {m : FlashMap} {boot : Area} {image : Bytes} {start : Nat}

/-! ## The guards -/

theorem place_missingArea_iff :
    ((place region m).on image).1 = .error (.missingArea Area.bootLoaderName) ↔
      m.bootLoader? = none := by
  cases hboot : m.bootLoader? with
  | none => simp [place_on_of_none hboot]
  | some boot =>
    rw [place_on hboot]
    split
    · simp
    split
    · simp
    split <;> simp

theorem place_regionTooLarge_iff (hboot : m.bootLoader? = some boot) :
    ((place region m).on image).1 = .error (.regionTooLarge boot.size region.length) ↔
      boot.size.toNat < region.length := by
  rw [place_on hboot]
  split
  · next hlarge => simp [hlarge]
  next hlarge =>
  split
  · simp [hlarge]
  split <;> simp [hlarge]

theorem place_areaOutsideImage_iff (hboot : m.bootLoader? = some boot)
    (hfit : region.length ≤ boot.size.toNat) :
    ((place region m).on image).1 = .error (.areaOutsideImage boot.stop image.length) ↔
      image.length < boot.stop := by
  rw [place_on hboot, if_neg (Nat.not_lt.2 hfit)]
  split
  · next hshort => simp [hshort]
  next hshort =>
  split <;> simp [hshort]

/-! ## The window -/

/-- A region that fits the area starts in the area. -/
theorem exists_start (hfit : region.length ≤ boot.size.toNat) :
    ∃ start, start + region.length = boot.stop ∧ boot.offset.toNat ≤ start := by
  have hstop : boot.stop = boot.offset.toNat + boot.size.toNat := rfl
  exact ⟨boot.stop - region.length, by omega, by omega⟩

section PastTheGuards

variable (hboot : m.bootLoader? = some boot) (hfit : region.length ≤ boot.size.toNat)
  (hreach : boot.stop ≤ image.length) (hstart : start + region.length = boot.stop)
include hboot hfit hreach hstart

/-- Past the guards all depends on whether the window is erased. -/
theorem place_on_window :
    (place region m).on image =
      if image.slice start region.length = erased region.length then
        (.ok (start + region.hashOffset),
          image.take start ++ region.bytes ++ image.drop (start + region.length))
      else (.error (.spaceOccupied start), image) := by
  have hsub : boot.stop - region.length = start := by omega
  rw [place_on hboot, if_neg (Nat.not_lt.2 hfit), if_neg (Nat.not_lt.2 hreach), hsub]
  rfl

theorem place_spaceOccupied_iff :
    ((place region m).on image).1 = .error (.spaceOccupied start) ↔
      ∃ i, start ≤ i ∧ i < start + region.length ∧ image[i]? ≠ some 0xFF := by
  have hwritten : ¬ image.slice start region.length = erased region.length ↔
      ∃ i, start ≤ i ∧ i < start + region.length ∧ image[i]? ≠ some 0xFF := by
    rw [Bytes.slice_eq_erased_iff]
    simp only [not_forall, exists_prop]
    rfl
  rw [place_on_window hboot hfit hreach hstart, ← hwritten]
  split
  · next herased => simp [herased]
  · next hwritten => simp [hwritten]

theorem place_eq_ok_iff :
    (place region m).on image =
        (.ok (start + region.hashOffset),
          image.take start ++ region.bytes ++ image.drop (start + region.length)) ↔
      ∀ i, start ≤ i → i < start + region.length → image[i]? = some 0xFF := by
  rw [place_on_window hboot hfit hreach hstart]
  refine Iff.trans ?_ Bytes.slice_eq_erased_iff
  split
  · next herased => simp [herased]
  · next hwritten => simp [hwritten]

end PastTheGuards

/-! ## The whole outcome -/

/-- Placing fails without a boot loader area, else with a region larger than it, else with an image
that does not reach its end, else with a written byte in the window that ends where the area ends;
else it succeeds, gives the absolute hash offset and writes the region over the window.  The window
starts in the area, and at its first byte if the region fills it.  A failure leaves the image as it
was. -/
theorem place_outcome (region : Encoded) (m : FlashMap) (image : Bytes) :
    (((place region m).on image).1 = .error (.missingArea Area.bootLoaderName) ↔
      m.bootLoader? = none) ∧
    (∀ boot, m.bootLoader? = some boot →
      (((place region m).on image).1 = .error (.regionTooLarge boot.size region.length) ↔
        boot.size.toNat < region.length) ∧
      (region.length ≤ boot.size.toNat →
        (((place region m).on image).1
            = .error (.areaOutsideImage (boot.offset.toNat + boot.size.toNat) image.length) ↔
          image.length < boot.offset.toNat + boot.size.toNat) ∧
        (boot.offset.toNat + boot.size.toNat ≤ image.length →
          ∃ start, start + region.length = boot.offset.toNat + boot.size.toNat ∧
            boot.offset.toNat ≤ start ∧
            (((place region m).on image).1 = .error (.spaceOccupied start) ↔
              ∃ i, start ≤ i ∧ i < start + region.length ∧ image[i]? ≠ some 0xFF) ∧
            ((place region m).on image =
                (.ok (start + region.hashOffset),
                  image.take start ++ region.bytes ++ image.drop (start + region.length)) ↔
              ∀ i, start ≤ i → i < start + region.length → image[i]? = some 0xFF) ∧
            (region.length = boot.size.toNat → start = boot.offset.toNat)))) ∧
    (∀ e left, (place region m).on image = (.error e, left) → left = image) := by
  refine ⟨place_missingArea_iff, ?_, ?_⟩
  · intro boot hboot
    refine ⟨place_regionTooLarge_iff hboot, ?_⟩
    intro hfit
    refine ⟨place_areaOutsideImage_iff hboot hfit, ?_⟩
    intro hreach
    obtain ⟨start, hstart, hin⟩ := exists_start hfit
    refine ⟨start, hstart, hin, place_spaceOccupied_iff hboot hfit hreach hstart,
      place_eq_ok_iff hboot hfit hreach hstart, ?_⟩
    intro hexact
    have hstop : boot.stop = boot.offset.toNat + boot.size.toNat := rfl
    omega
  · intro e left h
    exact (place_left_of_error h).1

/-- A map whose boot loader area is as long as a region with two areas. -/
def exactMap : FlashMap where
  areas := [⟨"FLASH_AREA_BOOTLOADER", 3, 0, 4, 74⟩]
  ascending := by decide

/-- A map whose boot loader area is one byte shorter. -/
def shortMap : FlashMap where
  areas := [⟨"FLASH_AREA_BOOTLOADER", 3, 0, 4, 73⟩]
  ascending := by decide

/-- The region for two areas, as it is placed. -/
def twoAreaEncoded : Encoded := ⟨(Region.current 0 twoAreaRecords .zero).write, 34⟩

theorem place_outcome_twoAreaEncoded :
    ((place twoAreaEncoded .empty).on bootImage).1
        = .error (.missingArea "FLASH_AREA_BOOTLOADER") ∧
      ((place twoAreaEncoded shortMap).on []).1 = .error (.regionTooLarge 73 74) ∧
      ((place twoAreaEncoded exactMap).on (bootImage.take 77)).1
        = .error (.areaOutsideImage 78 77) ∧
      (place twoAreaEncoded exactMap).on writtenImage = (.error (.spaceOccupied 4), writtenImage) ∧
      (place twoAreaEncoded exactMap).on bootImage
        = (.ok 38, bootImage.take 4 ++ twoAreaEncoded.bytes ++ bootImage.drop 78) := by
  have hexact : exactMap.bootLoader? = some ⟨"FLASH_AREA_BOOTLOADER", 3, 0, 4, 74⟩ := by cbv
  have hshort : shortMap.bootLoader? = some ⟨"FLASH_AREA_BOOTLOADER", 3, 0, 4, 73⟩ := by cbv
  refine ⟨?_, ?_, ?_, ?_, ?_⟩
  · exact (place_outcome twoAreaEncoded .empty bootImage).1.2 rfl
  · exact ((place_outcome twoAreaEncoded shortMap []).2.1 _ hshort).1.2 (by decide)
  · exact (((place_outcome twoAreaEncoded exactMap (bootImage.take 77)).2.1 _ hexact).2
      (by decide)).1.2 (by decide)
  · obtain ⟨-, hguards, hleft⟩ := place_outcome twoAreaEncoded exactMap writtenImage
    obtain ⟨start, -, -, hoccupied, -, hfull⟩ :=
      ((hguards _ hexact).2 (by decide)).2 (by decide)
    obtain rfl : start = 4 := hfull rfl
    have herror := hoccupied.2 ⟨77, by decide, by decide, by decide⟩
    exact Prod.ext herror (hleft _ _ (Prod.ext herror rfl))
  · obtain ⟨-, hguards, -⟩ := place_outcome twoAreaEncoded exactMap bootImage
    obtain ⟨start, -, -, -, hplaced, hfull⟩ :=
      ((hguards _ hexact).2 (by decide)).2 (by decide)
    obtain rfl : start = 4 := hfull rfl
    have herased : ∀ i < 78, 4 ≤ i → bootImage[i]? = some 0xFF := by decide
    exact hplaced.2 fun i hlow hhigh => herased i hhigh hlow

end FlashSeal
