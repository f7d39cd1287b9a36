/-
FlashSeal.Proofs.AreaReading — reading with a map is decoding the boot loader area alone.

Reading decodes everything in front of the area's end and refuses a region that begins before the
area.  `read_iff_area_decodes` says that this is the same as cutting the area out, decoding it by
itself and moving what was decoded to where the area stands.  So nothing outside of the area
counts, and a region that the area cannot hold is none of its regions, whatever bytes in front of
the area would complete it.

The law behind it is one of decoding: bytes in front move a region and change nothing else about it,
and a region that begins behind them owes them nothing (`decode_append_eq_ok_iff`).
-/
import FlashSeal.Proofs.RegionSearch

namespace FlashSeal

namespace Region

variable {front bs image other : Bytes} {m : FlashMap} {boot : Area} {r : Region}

/-! ## Regions that stand further on -/

/-- The region as it is read with `n` more bytes in front of it. -/
def moved (n : Nat) (r : Region) : Region :=
  { r with offset := n + r.offset, hashOffset := n + r.hashOffset }

@[simp] theorem write_moved (n : Nat) (r : Region) : (r.moved n).write = r.write := rfl

/-- Only the two offsets tell where a region stands. -/
theorem Lawful.moved (hr : r.Lawful) (n : Nat) : (r.moved n).Lawful where
  version_eq := hr.version_eq
  areaHeaders := hr.areaHeaders
  magic_eq := hr.magic_eq
  length_eq := hr.length_eq
  hashOffset_eq := by
    have := hr.hashOffset_eq
    simp only [Region.moved]
    omega

/-- A lawful region that begins behind `n` bytes is one that was moved there. -/
theorem Lawful.exists_moved (hr : r.Lawful) {n : Nat} (hn : n ≤ r.offset) :
    ∃ inner : Region, inner.Lawful ∧ r = inner.moved n := by
  refine ⟨{ r with offset := r.offset - n, hashOffset := r.hashOffset - n }, ?_, ?_⟩
  · refine ⟨hr.version_eq, hr.areaHeaders, hr.magic_eq, hr.length_eq, ?_⟩
    have := hr.hashOffset_eq
    simp only
    omega
  · have hhash : n ≤ r.hashOffset := by
      rw [hr.hashOffset_eq]
      omega
    simp only [Region.moved, Nat.add_sub_cancel' hn, Nat.add_sub_cancel' hhash]

/-! ## Bytes in front -/

/-- Bytes in front of what decodes move its region. -/
theorem decode_append_of_decode (front : Bytes) (h : decode bs = .ok r) :
    decode (front ++ bs) = .ok (r.moved front.length) := by
  obtain ⟨hr, before, hbefore, rfl⟩ := decode_eq_ok_iff.1 h
  refine decode_eq_ok_iff.2 ⟨hr.moved front.length, front ++ before, ?_, ?_⟩
  · rw [List.length_append, hbefore]
    rfl
  · rw [write_moved, List.append_assoc]

/-- A region that begins behind some bytes is decoded without them. -/
theorem exists_decode_of_append (h : decode (front ++ bs) = .ok r)
    (hin : front.length ≤ r.offset) :
    ∃ inner, decode bs = .ok inner ∧ r = inner.moved front.length := by
  obtain ⟨hr, before, hbefore, hbytes⟩ := decode_eq_ok_iff.1 h
  obtain ⟨inner, hinner, rfl⟩ := hr.exists_moved hin
  -- The front is not longer than what stands in front of the region, so that begins with it.
  obtain ⟨rest, rfl⟩ : front <+: before := by
    refine List.prefix_of_prefix_length_le (List.prefix_append front bs) ?_ (by omega)
    rw [hbytes]
    exact List.prefix_append before _
  rw [List.append_assoc] at hbytes
  refine ⟨inner, decode_eq_ok_iff.2 ⟨hinner, rest, ?_, List.append_cancel_left hbytes⟩, rfl⟩
  rw [List.length_append] at hbefore
  exact Nat.add_left_cancel hbefore

theorem decode_append_eq_ok_iff :
    (decode (front ++ bs) = .ok r ∧ front.length ≤ r.offset) ↔
      ∃ inner, decode bs = .ok inner ∧ r = inner.moved front.length := by
  constructor
  · rintro ⟨h, hin⟩
    exact exists_decode_of_append h hin
  · rintro ⟨inner, hinner, rfl⟩
    exact ⟨decode_append_of_decode front hinner, Nat.le_add_right _ _⟩

/-! ## The boot loader area -/

/-- What stands in front of an area's end is what stands in front of the area, and the area. -/
theorem take_stop_eq (image : Bytes) (boot : Area) :
    image.take boot.stop
      = image.take boot.offset.toNat ++ image.slice boot.offset.toNat boot.size.toNat :=
  List.take_add

/-- Reading succeeds exactly when the image reaches the area's end and the area decodes by itself. -/
theorem read_eq_ok_iff_slice (hboot : m.bootLoader? = some boot) :
    read image m = .ok r ↔
      boot.stop ≤ image.length ∧
        ∃ inner, decode (image.slice boot.offset.toNat boot.size.toNat) = .ok inner ∧
          r = inner.moved boot.offset.toNat := by
  rw [read_eq_ok_iff_of_bootLoader hboot]
  refine and_congr_right fun hreach => ?_
  have hstop : boot.stop = boot.offset.toNat + boot.size.toNat := rfl
  have hfront : (image.take boot.offset.toNat).length = boot.offset.toNat :=
    List.length_take_of_le (by omega)
  have hlaw := @decode_append_eq_ok_iff (image.take boot.offset.toNat)
    (image.slice boot.offset.toNat boot.size.toNat) r
  rwa [hfront, ← take_stop_eq] at hlaw

/-- What reading returns begins in the area and ends where the area ends. -/
theorem offset_le_and_stop_eq_of_read (hboot : m.bootLoader? = some boot)
    (h : read image m = .ok r) : boot.offset.toNat ≤ r.offset ∧ r.stop = boot.stop := by
  obtain ⟨hreach, hdecode, hin⟩ := (read_eq_ok_iff_of_bootLoader hboot).1 h
  exact ⟨hin, stop_eq_of_decode_take hreach hdecode⟩

/-- Images that reach the area's end and agree inside the area are read alike. -/
theorem read_eq_ok_iff_of_agree (hboot : m.bootLoader? = some boot)
    (himage : boot.stop ≤ image.length) (hother : boot.stop ≤ other.length)
    (hagree : ∀ i, boot.offset.toNat ≤ i → i < boot.stop → other[i]? = image[i]?) :
    read other m = .ok r ↔ read image m = .ok r := by
  have hslice : Bytes.slice other boot.offset.toNat boot.size.toNat
      = Bytes.slice image boot.offset.toNat boot.size.toNat := Bytes.slice_congr hagree
  rw [read_eq_ok_iff_slice hboot, read_eq_ok_iff_slice hboot, hslice, and_iff_right himage,
    and_iff_right hother]

/-! ## Failures for want of an area -/

theorem read_eq_missingArea_iff :
    read image m = .error (.missingArea Area.bootLoaderName) ↔ m.bootLoader? = none := by
  constructor
  · intro h
    have hcases := exists_of_read_eq_error h
    simpa using hcases
  · exact read_of_no_bootLoader

theorem read_eq_areaOutsideImage_iff (hboot : m.bootLoader? = some boot) :
    read image m = .error (.areaOutsideImage boot.stop image.length) ↔
      image.length < boot.stop := by
  constructor
  · intro h
    have hcases := exists_of_read_eq_error h
    simp only [hboot, reduceCtorEq, false_and, false_or, exists_false, or_false] at hcases
    obtain ⟨area, harea, hshort, -⟩ := hcases
    rwa [Option.some.inj harea]
  · intro hshort
    rw [read_of_bootLoader hboot, if_pos hshort]

/-! ## The area alone -/

/-- Reading gives a region exactly when the image reaches the boot loader area's end and the area's
bytes decode by themselves; the region is then what they decode to, moved to where the area stands.
So it begins in the area and ends with it, and the bytes around the area never count.  Without the
area, and with one that ends behind the image, reading fails and says so. -/
theorem read_iff_area_decodes (image : Bytes) (m : FlashMap) :
    (read image m = .error (.missingArea Area.bootLoaderName) ↔ m.bootLoader? = none) ∧
    ∀ boot, m.bootLoader? = some boot →
      (read image m = .error (.areaOutsideImage boot.stop image.length) ↔
        image.length < boot.stop) ∧
      (∀ r, read image m = .ok r ↔
        boot.offset.toNat + boot.size.toNat ≤ image.length ∧
          ∃ inner, decode (image.slice boot.offset.toNat boot.size.toNat) = .ok inner ∧
            r = { inner with
              offset := boot.offset.toNat + inner.offset
              hashOffset := boot.offset.toNat + inner.hashOffset }) ∧
      (∀ r, read image m = .ok r →
        boot.offset.toNat ≤ r.offset ∧ r.stop = boot.offset.toNat + boot.size.toNat) ∧
      ∀ other : Bytes, boot.stop ≤ image.length → boot.stop ≤ other.length →
        (∀ i, boot.offset.toNat ≤ i → i < boot.stop → other[i]? = image[i]?) →
        ∀ r, read other m = .ok r ↔ read image m = .ok r := by
  refine ⟨read_eq_missingArea_iff, ?_⟩
  intro boot hboot
  refine ⟨read_eq_areaOutsideImage_iff hboot, ?_, ?_, ?_⟩
  · intro r
    exact read_eq_ok_iff_slice hboot
  · intro r h
    exact offset_le_and_stop_eq_of_read hboot h
  · intro other himage hother hagree r
    exact read_eq_ok_iff_of_agree hboot himage hother hagree

/-- A map whose boot loader area begins three bytes in front of the region. -/
def snugMap : FlashMap where
  areas := [⟨"FLASH_AREA_BOOTLOADER", 0, 0, 2, 63⟩]
  ascending := by decide

/-- A map whose boot loader area begins one byte behind the region's start. -/
def cutMap : FlashMap where
  areas := [⟨"FLASH_AREA_BOOTLOADER", 0, 0, 6, 59⟩]
  ascending := by decide

/-- An image with a region that ends at offset 65. -/
def framedImage : Bytes := [0x10, 0x20] ++ ([0x69, 0xA2, 0xB2] ++ oddPads.write) ++ [0x30]

theorem read_iff_area_decodes_framedImage :
    read framedImage .empty = .error (.missingArea "FLASH_AREA_BOOTLOADER") ∧
      read [0x10] snugMap = .error (.areaOutsideImage 65 1) ∧
      read framedImage snugMap = .ok { oddPads with offset := 5, hashOffset := 25 } ∧
      read ([0xFF, 0xFF] ++ framedImage.drop 2 ++ [0x69, 0xA2, 0xB2, 0x3B]) snugMap
        = .ok { oddPads with offset := 5, hashOffset := 25 } ∧
      ∀ r, read framedImage cutMap ≠ .ok r := by
  have hsnug : snugMap.bootLoader? = some ⟨"FLASH_AREA_BOOTLOADER", 0, 0, 2, 63⟩ := by cbv
  have hcut : cutMap.bootLoader? = some ⟨"FLASH_AREA_BOOTLOADER", 0, 0, 6, 59⟩ := by cbv
  obtain ⟨-, harea⟩ := read_iff_area_decodes framedImage snugMap
  obtain ⟨-, hread, -, hagree⟩ := harea _ hsnug
  have hinner : decode (framedImage.slice 2 63) = .ok oddPads :=
    decode_eq_ok_iff.2 ⟨⟨rfl, by decide, rfl, rfl, rfl⟩, [0x69, 0xA2, 0xB2], rfl, rfl⟩
  have hok : read framedImage snugMap = .ok { oddPads with offset := 5, hashOffset := 25 } :=
    (hread _).2 ⟨by decide, oddPads, hinner, rfl⟩
  refine ⟨?_, ?_, hok, ?_, ?_⟩
  · exact (read_iff_area_decodes framedImage .empty).1.2 rfl
  · exact ((read_iff_area_decodes [0x10] snugMap).2 _ hsnug).1.2 (by decide)
  · have hsame : ∀ i < 65, 2 ≤ i →
        ([0xFF, 0xFF] ++ framedImage.drop 2 ++ [0x69, 0xA2, 0xB2, 0x3B])[i]? = framedImage[i]? := by
      decide
    exact (hagree _ (by decide) (by decide) (fun i hlow hhigh => hsame i hhigh hlow) _).2 hok
  · intro r hr
    -- Both areas end at offset 65, so the region would be the one in front of the cut.
    have hcutStart : 6 ≤ r.offset :=
      (((read_iff_area_decodes framedImage cutMap).2 _ hcut).2.2.1 r hr).1
    have hwhole := ((read_eq_ok_iff_of_bootLoader hsnug).1 hok).2.1
    have hsame := ((read_eq_ok_iff_of_bootLoader hcut).1 hr).2.1
    obtain rfl := Except.ok.inj (hwhole.symm.trans hsame)
    exact absurd hcutStart (by decide)

end Region

end FlashSeal
