/-
FlashSeal.Proofs.PaddedSealing — what it changes to pad an image before it is sealed.

Where a region goes is decided by the boot loader area, and of the image only the bytes in front of the
area's end are looked at.  So an image that reaches this end is treated alike with any bytes behind it
(`place_append`): the same success, with those bytes left where they are, or the same failure.  What
differs after a success is the digest, which covers the bytes behind as well, and no byte but its own 32
tells of it.

Padding makes a difference only to an image that does not reach the end.  It is then sealed exactly if the
padding reaches far enough and the bytes that the image has of the region's place are erased, be it all
of them, some or none (`exists_place_padded_iff`).
-/
import FlashSeal.Proofs.CommandRoundTrip
import FlashSeal.Proofs.EmbedWork
import FlashSeal.Proofs.HashField
import FlashSeal.Proofs.PlaceOutcome

namespace FlashSeal

variable {digest : Bytes → Digest} {region : Encoded} {m : FlashMap} {boot : Area}
  {image left placed : Bytes} {p : Placement} {hashOffset start k : Nat}

/-! ## Images that reach the end of the area -/

/-- The image reaches the end of the boot loader area, if there is one and it has room for the
region. -/
def Encoded.Reaches (region : Encoded) (m : FlashMap) (image : Bytes) : Prop :=
  ∀ boot, m.bootLoader? = some boot → region.length ≤ boot.size.toNat → boot.stop ≤ image.length

/-- Only an image that does not reach the end is said to be too short. -/
theorem reaches_of_place
    (h : ∀ stop length, ((place region m).on image).1 ≠ .error (.areaOutsideImage stop length)) :
    region.Reaches m image := by
  intro boot hboot hfit
  by_contra hshort
  exact h _ _ ((place_areaOutsideImage_iff hboot hfit).2 (Nat.lt_of_not_le hshort))

/-- An image that reaches the end is treated alike with any bytes behind it. -/
theorem place_append (hreach : region.Reaches m image) (back : Bytes) :
    (place region m).on (image ++ back) =
      (((place region m).on image).1, ((place region m).on image).2 ++ back) := by
  cases hboot : m.bootLoader? with
  | none => rw [place_on_of_none hboot, place_on_of_none hboot]
  | some boot =>
    rw [place_on hboot, place_on hboot]
    by_cases hlarge : boot.size.toNat < region.length
    · rw [if_pos hlarge, if_pos hlarge]
    -- The window ends where the area does, and so in front of what stands behind the image.
    have hin := hreach boot hboot (Nat.not_lt.1 hlarge)
    have hstop : boot.stop = boot.offset.toNat + boot.size.toNat := rfl
    have hwindow : boot.stop - region.length + region.length ≤ image.length := by omega
    have hbytes : boot.stop - region.length + region.bytes.length ≤ image.length := hwindow
    rw [if_neg hlarge, if_neg hlarge, if_neg (by rw [List.length_append]; omega),
      if_neg (Nat.not_lt.2 hin), Bytes.slice_append_of_le back hwindow,
      Bytes.overwrite_append_of_le back hbytes]
    split <;> rfl

/-- Placing a region changes no image's length. -/
theorem length_of_place (h : (place region m).on image = (.ok hashOffset, placed)) :
    placed.length = image.length := by
  obtain ⟨boot, front, back, -, -, -, rfl, rfl, -⟩ := exists_place h
  simp only [List.length_append, length_erased, Encoded.length]

/-- A success stays one, and the bytes behind stay where they are. -/
theorem place_append_of_ok (h : (place region m).on image = (.ok hashOffset, placed)) (back : Bytes) :
    (place region m).on (image ++ back) = (.ok hashOffset, placed ++ back) := by
  have hreach : region.Reaches m image := reaches_of_place (by simp [h])
  rw [place_append hreach, h]

/-- Sealing fails alike with any bytes behind, unless the image was too short. -/
theorem embed_append_of_error {e : RegionError} (h : ((embed m digest).on image).1 = .error e)
    (hlong : ∀ stop length, e ≠ .areaOutsideImage stop length) (back : Bytes) :
    (embed m digest).on (image ++ back) = (.error e, image ++ back) := by
  rcases embed_eq_error_iff.1 h with hregion | ⟨region, hregion, hplace⟩
  · exact embed_on_of_ofAreas_error hregion
  · have hreach : region.Reaches m image := reaches_of_place (by
      intro stop length hshort
      exact hlong stop length (Except.error.inj (hplace.symm.trans hshort)))
    have hplaced : (place region m).on (image ++ back)
        = (.error e, ((place region m).on image).2 ++ back) := by
      rw [place_append hreach, hplace]
    exact embed_on_of_place_error hregion hplaced

/-! ## The padded seal -/

/-- An image that can be sealed is sealed in the same place with erased bytes behind it.  They stay
erased, and in front of them the two images differ in the digest alone. -/
theorem exists_embed_append_erased (h : (embed m digest).on image = (.ok p, left)) (k : Nat) :
    ∃ q after, (embed m digest).on (image ++ erased k) = (.ok q, after) ∧
      q.regionOffset = p.regionOffset ∧ q.regionLength = p.regionLength ∧
      q.hashOffset = p.hashOffset ∧ after.length = image.length + k ∧
      (∀ i < image.length, i < p.hashOffset ∨ p.hashOffset + digestLength ≤ i →
        after[i]? = left[i]?) ∧
      ∀ i, image.length ≤ i → i < image.length + k → after[i]? = some erasedByte := by
  obtain ⟨region, hashOffset, placed, hregion, hplace, rfl, rfl⟩ := embed_eq_ok_iff.1 h
  have hin := hashOffset_fits hregion hplace
  have hembed : (embed m digest).on (image ++ erased k) = _ :=
    embed_on_of_place hregion (place_append_of_ok hplace (erased k))
  generalize digest (placed.blanked hashOffset) = d
  generalize digest ((placed ++ erased k).blanked hashOffset) = d' at hembed
  rw [Bytes.overwrite_append_of_le (erased k) (by rwa [d'.length_bytes])] at hembed
  have hsame := Bytes.sameButField_overwrite hin d.length_bytes
  have hsame' := Bytes.sameButField_overwrite hin d'.length_bytes
  have hfront : (placed.overwrite hashOffset d'.bytes).length = image.length :=
    hsame'.length_eq.trans (length_of_place hplace)
  refine ⟨_, _, hembed, rfl, rfl, rfl, ?_, ?_, ?_⟩
  · rw [List.length_append, hfront, length_erased]
  · intro i hi hout
    rw [List.getElem?_append_left (by rwa [hfront]), hsame'.getElem?_eq i hout,
      hsame.getElem?_eq i hout]
  · intro i hlow hhigh
    rw [← hfront] at hlow hhigh
    exact Bytes.getElem?_append_erased hlow hhigh

/-! ## Images that do not reach the end -/

theorem exists_of_place_areaOutsideImage {stop length : Nat}
    (h : ((place region m).on image).1 = .error (.areaOutsideImage stop length)) :
    ∃ boot, m.bootLoader? = some boot ∧ region.length ≤ boot.size.toNat ∧
      image.length < boot.stop ∧ stop = boot.stop ∧ length = image.length := by
  cases hboot : m.bootLoader? with
  | none => simp [place_on_of_none hboot] at h
  | some boot =>
    rw [place_on hboot] at h
    split at h
    · cases h
    next hlarge =>
    split at h
    · next hshort =>
      cases h
      exact ⟨boot, rfl, Nat.not_lt.1 hlarge, hshort, rfl, rfl⟩
    · split at h <;> cases h

/-- A region that fits the area finds its place in an image that reaches the area's end and is erased in
front of it. -/
theorem exists_place_iff (hboot : m.bootLoader? = some boot)
    (hfit : region.length ≤ boot.size.toNat) (hstart : start + region.length = boot.stop) :
    (∃ hashOffset placed, (place region m).on image = (.ok hashOffset, placed)) ↔
      boot.stop ≤ image.length ∧
        ∀ i, start ≤ i → i < boot.stop → image[i]? = some erasedByte := by
  by_cases hreach : boot.stop ≤ image.length
  · rw [and_iff_right hreach, ← hstart]
    constructor
    · rintro ⟨hashOffset, placed, hplace⟩
      rw [place_on_window hboot hfit hreach hstart] at hplace
      split at hplace
      · next herased => exact Bytes.slice_eq_erased_iff.1 herased
      · cases hplace
    · intro herased
      exact ⟨_, _, (place_eq_ok_iff hboot hfit hreach hstart).2 herased⟩
  · refine iff_of_false ?_ fun hplace => hreach hplace.1
    rintro ⟨hashOffset, placed, hplace⟩
    have hshort := (place_areaOutsideImage_iff hboot hfit).2 (Nat.lt_of_not_le hreach)
    rw [hplace] at hshort
    cases hshort

/-- An image that does not reach the area's end is sealed once padding reaches it, if what the image has
of the region's place is erased. -/
theorem exists_place_padded_iff (hboot : m.bootLoader? = some boot)
    (hfit : region.length ≤ boot.size.toNat) (hstart : start + region.length = boot.stop)
    (hshort : image.length < boot.stop) :
    (∃ hashOffset placed, (place region m).on (image ++ erased k) = (.ok hashOffset, placed)) ↔
      boot.stop ≤ image.length + k ∧
        ∀ i, start ≤ i → i < image.length → image[i]? = some erasedByte := by
  rw [exists_place_iff hboot hfit hstart, List.length_append, length_erased]
  -- The part of the window that the image does not have is padding.
  refine and_congr_right fun hreach => ⟨?_, ?_⟩
  · intro herased i hlow hhigh
    rw [← herased i hlow (by omega), List.getElem?_append_left hhigh]
  · intro herased i hlow hhigh
    by_cases hi : i < image.length
    · rw [List.getElem?_append_left hi]
      exact herased i hlow hi
    · exact Bytes.getElem?_append_erased (by omega) (by omega)

/-- A region that was written is sealed exactly when it finds its place. -/
theorem exists_embed_iff (hregion : Encoded.ofAreas m.emission = .ok region) :
    (∃ p left, (embed m digest).on image = (.ok p, left)) ↔
      ∃ hashOffset placed, (place region m).on image = (.ok hashOffset, placed) := by
  constructor
  · rintro ⟨p, left, h⟩
    obtain ⟨other, hashOffset, placed, hother, hplace, -, -⟩ := embed_eq_ok_iff.1 h
    obtain rfl : region = other := Except.ok.inj (hregion.symm.trans hother)
    exact ⟨hashOffset, placed, hplace⟩
  · rintro ⟨hashOffset, placed, hplace⟩
    exact ⟨_, _, embed_on_of_place hregion hplace⟩

theorem exists_of_embed_areaOutsideImage {stop length : Nat}
    (h : ((embed m digest).on image).1 = .error (.areaOutsideImage stop length)) :
    ∃ boot region, m.bootLoader? = some boot ∧ Encoded.ofAreas m.emission = .ok region ∧
      region.length ≤ boot.size.toNat ∧ image.length < boot.stop ∧ stop = boot.stop ∧
      length = image.length := by
  rcases embed_eq_error_iff.1 h with hregion | ⟨region, hregion, hplace⟩
  · obtain ⟨field, value, hfault⟩ := Encoded.exists_of_ofAreas_eq_error hregion
    cases hfault
  · obtain ⟨boot, hboot, hfit, hshort, hstop, hlength⟩ := exists_of_place_areaOutsideImage hplace
    exact ⟨boot, region, hboot, hregion, hfit, hshort, hstop, hlength⟩

/-! ## Padding to a size -/

namespace Session

theorem padImage_on_length_add (image : Bytes) (k : Nat) :
    (padImage (image.length + k)).on image = (.ok (), image ++ erased k) := by
  rw [padImage_on, if_neg (Nat.not_lt.2 (Nat.le_add_right _ _)), Bytes.padTo,
    Nat.add_sub_cancel_left]

/-- Padding fails exactly for a size that the image exceeds. -/
theorem padImage_eq_error_iff {size : Nat} {e : CommandError} :
    ((padImage size).on image).1 = .error e ↔
      size < image.length ∧ e = .longerThanPad image.length size := by
  rw [padImage_on]
  split
  · next hlong => simp [hlong, eq_comm]
  · next hshort => simp [hshort]

/-- A failure leaves the image as it was. -/
theorem padImage_left_of_error {size : Nat} {e : CommandError}
    (h : (padImage size).on image = (.error e, left)) : left = image := by
  rw [padImage_on] at h
  split at h
  · exact (Prod.mk.inj h).2.symm
  · cases h

/-- An image that is longer than its size is not sealed, and no file is written. -/
theorem embed_of_longerThanPad {document? : String → Option Toml.Entries} {store : Store}
    {mapPath input output : String} {size : Nat}
    (hmap : ((loadMap mapPath document?).on store).1 = .ok m) (hread : store.read input = .ok image)
    (hlong : size < image.length) :
    ∃ done, (embed mapPath input output (some size) digest document?).on store
      = (.error (.longerThanPad image.length size), done) ∧ done.store = store := by
  obtain ⟨events, hon⟩ : ∃ events, (embed mapPath input output (some size) digest document?).on store =
      (sealOpened input output (some size) digest m image).resume ⟨store, [], events⟩ :=
    exists_embed_on hmap hread
  rw [resume_sealOpened rfl, Option.getD_some, if_pos hlong] at hon
  exact ⟨_, hon, rfl⟩

end Session

/-! ## The two runs -/

/-- Padding an image with erased bytes before it is sealed repairs one failure and changes nothing else.
An image that can be sealed is sealed in the same place, with the same bytes but for the digest and the
padding erased.  One that cannot fails alike, unless the boot loader area ends behind it: then the
padded image is sealed exactly if it reaches the area's end and the image has no written byte from the
region's start on.  Padding to a size fails exactly for a longer image, and leaves the image and every
file as they were. -/
theorem padding_repairs_areaOutsideImage (digest : Bytes → Digest) (m : FlashMap) (image : Bytes)
    (k : Nat) :
    (Session.padImage (image.length + k)).on image = (.ok (), image ++ erased k) ∧
    (∀ p left, (embed m digest).on image = (.ok p, left) →
      ∃ q after, (embed m digest).on (image ++ erased k) = (.ok q, after) ∧
        q.regionOffset = p.regionOffset ∧ q.regionLength = p.regionLength ∧
        q.hashOffset = p.hashOffset ∧ after.length = image.length + k ∧
        (∀ i < image.length, i < p.hashOffset ∨ p.hashOffset + 32 ≤ i → after[i]? = left[i]?) ∧
        ∀ i, image.length ≤ i → i < image.length + k → after[i]? = some 0xFF) ∧
    (∀ e, ((embed m digest).on image).1 = .error e →
      (∀ stop length, e ≠ .areaOutsideImage stop length) →
      (embed m digest).on (image ++ erased k) = (.error e, image ++ erased k)) ∧
    (∀ stop length, ((embed m digest).on image).1 = .error (.areaOutsideImage stop length) →
      ∃ boot region start, m.bootLoader? = some boot ∧
        stop = boot.offset.toNat + boot.size.toNat ∧ length = image.length ∧
        Encoded.ofAreas m.emission = .ok region ∧ start + region.length = stop ∧
        boot.offset.toNat ≤ start ∧
        ((∃ q after, (embed m digest).on (image ++ erased k) = (.ok q, after)) ↔
          stop ≤ image.length + k ∧
            ∀ i, start ≤ i → i < image.length → image[i]? = some 0xFF)) ∧
    (∀ size e, ((Session.padImage size).on image).1 = .error e ↔
      size < image.length ∧ e = .longerThanPad image.length size) ∧
    (∀ size e left, (Session.padImage size).on image = (.error e, left) → left = image) ∧
    (∀ document? store mapPath input output size,
      ((Session.loadMap mapPath document?).on store).1 = .ok m →
      store.read input = .ok image → size < image.length →
      ∃ done, (Session.embed mapPath input output (some size) digest document?).on store
        = (.error (.longerThanPad image.length size), done) ∧ done.store = store) := by
  refine ⟨Session.padImage_on_length_add image k, ?_, ?_, ?_, ?_, ?_, ?_⟩
  · intro p left h
    exact exists_embed_append_erased h k
  · intro e h hlong
    exact embed_append_of_error h hlong (erased k)
  · intro stop length h
    obtain ⟨boot, region, hboot, hregion, hfit, hshort, rfl, rfl⟩ :=
      exists_of_embed_areaOutsideImage h
    obtain ⟨start, hstart, hin⟩ := exists_start hfit
    refine ⟨boot, region, start, hboot, rfl, rfl, hregion, hstart, hin, ?_⟩
    rw [exists_embed_iff hregion]
    exact exists_place_padded_iff hboot hfit hstart hshort
  · intro size e
    exact Session.padImage_eq_error_iff
  · intro size e left h
    exact Session.padImage_left_of_error h
  · intro document? store mapPath input output size hmap hread hlong
    exact Session.embed_of_longerThanPad hmap hread hlong

/-- The image broken off within the place of the region. -/
def brokenImage : Bytes := bootImage.take 40

theorem padding_repairs_areaOutsideImage_brokenImage :
    (∃ q after, (embed twoAreaMap).on (bootImage ++ erased 3) = (.ok q, after) ∧
      q.hashOffset = 38 ∧ after.length = 86) ∧
    (embed twoAreaMap).on (writtenImage ++ erased 3)
      = (.error (.spaceOccupied 4), writtenImage ++ erased 3) ∧
    ((embed twoAreaMap).on brokenImage).1 = .error (.areaOutsideImage 78 40) ∧
    (¬ ∃ q after, (embed twoAreaMap).on (brokenImage ++ erased 37) = (.ok q, after)) ∧
    (∃ q after, (embed twoAreaMap).on (brokenImage ++ erased 38) = (.ok q, after)) ∧
    ∃ done, (Session.embed "map.toml" "flash.bin" "sealed.bin" (some 8)).on Session.bench
      = (.error (.longerThanPad 83 8), done) ∧ done.store = Session.bench := by
  have hwritten : ((embed twoAreaMap).on writtenImage).1 = .error (.spaceOccupied 4) := by
    refine embed_eq_error_iff.2 (.inr ⟨_, ofAreas_twoAreaMap, ?_⟩)
    rw [place_on bootLoader?_twoAreaMap]
    cbv
  have hbroken : ((embed twoAreaMap).on brokenImage).1 = .error (.areaOutsideImage 78 40) :=
    embed_eq_error_iff.2 (.inr ⟨_, ofAreas_twoAreaMap,
      (place_areaOutsideImage_iff bootLoader?_twoAreaMap (by decide)).2 (by decide)⟩)
  -- The region's place starts at 4, and what the broken image has of it is erased.
  have hrepaired (k : Nat) : (∃ q after, (embed twoAreaMap).on (brokenImage ++ erased k)
      = (.ok q, after)) ↔ 78 ≤ 40 + k := by
    obtain ⟨-, -, -, hshort, -⟩ :=
      padding_repairs_areaOutsideImage sha256 twoAreaMap brokenImage k
    obtain ⟨boot, region, start, -, -, -, hregion, hstart, -, hiff⟩ := hshort 78 40 hbroken
    obtain rfl := Except.ok.inj (ofAreas_twoAreaMap.symm.trans hregion)
    obtain rfl : start = 4 := Nat.add_right_cancel (m := 74) hstart
    have herased : ∀ i < 40, 4 ≤ i → brokenImage[i]? = some 0xFF := by decide
    exact hiff.trans (and_iff_left fun i hlow hhigh => herased i hhigh hlow)
  obtain ⟨-, hsuccess, -⟩ := padding_repairs_areaOutsideImage sha256 twoAreaMap bootImage 3
  obtain ⟨q, after, hembed, -, -, hoffset, hlength, -⟩ := hsuccess _ _ embed_bootImage
  obtain ⟨-, -, hfailure, -⟩ := padding_repairs_areaOutsideImage sha256 twoAreaMap writtenImage 3
  obtain ⟨-, -, -, -, -, -, hsession⟩ := padding_repairs_areaOutsideImage sha256 twoAreaMap bootImage 0
  exact ⟨⟨q, after, hembed, hoffset, hlength⟩, hfailure _ hwritten (by simp), hbroken,
    mt (hrepaired 37).1 (by decide), (hrepaired 38).2 (by decide),
    hsession _ _ _ _ "sealed.bin" 8 Session.loadMap_bench rfl (by decide)⟩

end FlashSeal
