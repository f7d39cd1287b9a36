/-
FlashSeal.Proofs.ImageWork — the outcome and the image left of each operation on an image.

`Work.on_bind` runs one step after another, and from it every operation of the library gets one
equation that gives outcome and image left for every image: `calcHash_on`, `fillHash_on`, `verify_on`
and `place_on`.  Whoever reasons about an image cites these and never opens an operation.

The digest is an arbitrary function of the blanked image throughout.
-/
import FlashSeal.Proofs.Window
import FlashSeal.Seal

namespace FlashSeal

open Work

/-! ## Hash -/

/-- The digest covers the blanked image, and the image is left as it was. -/
theorem calcHash_on (digest : Bytes → Digest) (offset : Nat) (image : Bytes) :
    (calcHash offset digest).on image =
      if offset + digestLength ≤ image.length then (.ok (digest (image.blanked offset)), image)
      else (.error (.hashOutOfRange offset image.length), image) := by
  simp only [calcHash, on_bind, on_get]
  by_cases h : offset + digestLength ≤ image.length
  · have hback := Bytes.overwrite_blanked h
    simp only [Bytes.blanked, Bytes.slice] at hback
    simp only [if_pos h, on_bind, on_set, on_get, on_modify, on_pure, hback, Bytes.blanked]
  · simp only [if_neg h, on_throw]

/-- The digest that is stored is the one that is given, and nothing else is written. -/
theorem fillHash_on (digest : Bytes → Digest) (offset : Nat) (image : Bytes) :
    (fillHash offset digest).on image =
      if offset + digestLength ≤ image.length then
        (.ok (digest (image.blanked offset)),
          image.overwrite offset (digest (image.blanked offset)).bytes)
      else (.error (.hashOutOfRange offset image.length), image) := by
  rw [fillHash, on_bind, calcHash_on]
  by_cases h : offset + digestLength ≤ image.length
  · simp only [if_pos h, on_bind, on_modify, on_pure]
  · simp only [if_neg h]

/-- A region's digest is compared with the image's, and the image is left as it was. -/
theorem verify_on (digest : Bytes → Digest) (region : Region) (image : Bytes) :
    (verify region digest).on image =
      if region.hashOffset + digestLength ≤ image.length then
        (.ok (decide (digest (image.blanked region.hashOffset) = region.hash)), image)
      else (.error (.hashOutOfRange region.hashOffset image.length), image) := by
  rw [verify, on_bind, calcHash_on]
  by_cases h : region.hashOffset + digestLength ≤ image.length
  · simp only [if_pos h, on_pure]
  · simp only [if_neg h]

/-! ## Place -/

/-- No byte of a window was written exactly when the window is erased. -/
theorem firstWritten?_eq_none_iff {image : Bytes} {start n : Nat} (h : start + n ≤ image.length) :
    firstWritten? image start (start + n) = none ↔ image.slice start n = erased n := by
  have hslice : (image.take (start + n)).drop start = image.slice start n := by
    rw [List.drop_take, Nat.add_sub_cancel_left, Bytes.slice]
  have hlen : (image.slice start n).length = n := Bytes.length_slice h
  rw [firstWritten?, hslice, List.find?_eq_none, erased, List.eq_replicate_iff]
  constructor
  · intro hall
    refine ⟨hlen, fun b hb => ?_⟩
    obtain ⟨i, hi⟩ := List.mem_iff_getElem?.1 hb
    simpa using hall (b, start + i) (List.mk_add_mem_zipIdx_iff_getElem?.2 hi)
  · rintro ⟨-, hall⟩ ⟨b, i⟩ hmem
    have := hall b (List.fst_mem_of_mem_zipIdx hmem)
    simp [this]

/-- Without a boot loader area there is no place. -/
theorem place_on_of_none {m : FlashMap} (hboot : m.bootLoader? = none) (region : Encoded)
    (image : Bytes) :
    (place region m).on image = (.error (.missingArea Area.bootLoaderName), image) := by
  simp only [place, on_bind, FlashMap.bootLoader, hboot, on_ofExcept]

/-- With a boot loader area the region goes to the area's end, if it is not larger than the area,
the image reaches that end and the bytes there are erased; else the image is left as it was. -/
theorem place_on {m : FlashMap} {boot : Area} (hboot : m.bootLoader? = some boot)
    (region : Encoded) (image : Bytes) :
    (place region m).on image =
      if boot.size.toNat < region.length then
        (.error (.regionTooLarge boot.size region.length), image)
      else if image.length < boot.stop then
        (.error (.areaOutsideImage boot.stop image.length), image)
      else if image.slice (boot.stop - region.length) region.length = erased region.length then
        (.ok (boot.stop - region.length + region.hashOffset),
          image.overwrite (boot.stop - region.length) region.bytes)
      else (.error (.spaceOccupied (boot.stop - region.length)), image) := by
  simp only [place, on_bind, FlashMap.bootLoader, hboot, on_ofExcept]
  by_cases hlarge : boot.size.toNat < region.length
  · simp only [if_pos hlarge, on_bind, on_throw]
  by_cases hshort : image.length < boot.stop
  · simp only [if_neg hlarge, on_bind, on_get, on_ofExcept, Area.stopWithin, if_pos hshort]
  have hstart : boot.stop = boot.stop - region.length + region.length := by
    have : boot.size.toNat ≤ boot.stop := Nat.le_add_left _ _
    omega
  have herased : (firstWritten? image (boot.stop - region.length) boot.stop).isSome = true ↔
      ¬ image.slice (boot.stop - region.length) region.length = erased region.length := by
    rw [← firstWritten?_eq_none_iff (by omega), ← hstart, Option.isSome_iff_ne_none]
  by_cases hfree : image.slice (boot.stop - region.length) region.length = erased region.length
  · simp only [if_neg hlarge, if_neg hshort, if_pos hfree, if_neg (fun h => herased.1 h hfree),
      on_bind, on_get, on_ofExcept, on_set, on_pure, Area.stopWithin]
  · simp only [if_neg hlarge, if_neg hshort, if_neg hfree, if_pos (herased.2 hfree),
      on_bind, on_get, on_ofExcept, on_throw, Area.stopWithin]

/-- A region that does not find its place leaves the image as it was, and the fault is never one
of hashing. -/
theorem place_left_of_error {region : Encoded} {m : FlashMap} {image left : Bytes}
    {e : RegionError} (h : (place region m).on image = (.error e, left)) :
    left = image ∧ ∀ offset length, e ≠ .hashOutOfRange offset length := by
  cases hboot : m.bootLoader? with
  | none =>
    rw [place_on_of_none hboot] at h
    cases h
    exact ⟨rfl, by simp⟩
  | some boot =>
    rw [place_on hboot] at h
    split at h
    · cases h
      exact ⟨rfl, by simp⟩
    split at h
    · cases h
      exact ⟨rfl, by simp⟩
    split at h
    · cases h
    · cases h
      exact ⟨rfl, by simp⟩

/-- A region that finds its place stands at the end of the boot loader area, where nothing but
erased bytes stood. -/
theorem exists_place {region : Encoded} {m : FlashMap} {image left : Bytes} {hashOffset : Nat}
    (h : (place region m).on image = (.ok hashOffset, left)) :
    ∃ (boot : Area) (front back : Bytes), m.bootLoader? = some boot ∧
      boot.offset.toNat ≤ front.length ∧ front.length + region.length = boot.stop ∧
      image = front ++ erased region.length ++ back ∧
      left = front ++ region.bytes ++ back ∧ hashOffset = front.length + region.hashOffset := by
  cases hboot : m.bootLoader? with
  | none =>
    rw [place_on_of_none hboot] at h
    cases h
  | some boot =>
    rw [place_on hboot] at h
    split at h
    · cases h
    next hlarge =>
    split at h
    · cases h
    next hshort =>
    split at h
    · next hfree =>
      have hstop : boot.stop = boot.offset.toNat + boot.size.toNat := rfl
      have hin : boot.stop - region.length + region.length ≤ image.length := by omega
      obtain ⟨front, mid, back, rfl, hfront, hmid⟩ := Bytes.exists_window hin
      rw [Bytes.slice_append hfront hmid] at hfree
      subst hfree
      rw [Bytes.overwrite_append hfront hmid.symm, ← hfront] at h
      obtain ⟨hoffset, hleft⟩ := Prod.mk.inj h
      exact ⟨boot, front, back, rfl, by omega, by omega, rfl, hleft.symm,
        (Except.ok.inj hoffset).symm⟩
    · cases h

end FlashSeal
