/-
FlashSeal.Proofs.EncodingLayout — the bytes of an encoded region, and when there are none.

`Encoded.ofAreas_layout` says both for every list of areas.  The bytes are told by their values and
their places, and not through the records' writers: a header of four, fourteen for each area in the
order of the list, a hash record that is still zero, and a footer that counts them all
(`Area.layout`, `write_current_eq`).  There are none if an area does not fit its record, and then the
first such area is named, or if the region is too long for its footer, which is so from 4678 areas on.
-/
import FlashSeal.Proofs.Encoding

namespace FlashSeal

/-! ## The bytes of one record -/

theorem littleEndian_reservedPair : littleEndian 2 reservedPair.toNat = [0xFF, 0xFF] := by decide

theorem littleEndian_regionMagic :
    littleEndian 4 regionMagic.toNat = [0x69, 0xA2, 0xB2, 0x3B] := by decide

/-- The fourteen bytes that stand for an area. -/
def Area.layout (a : Area) : Bytes :=
  [2, 12, a.id.toUInt8, a.device.toUInt8, 0xFF, 0xFF,
    a.offset.toUInt8, (a.offset >>> 8).toUInt8, (a.offset >>> 16).toUInt8, (a.offset >>> 24).toUInt8,
    a.size.toUInt8, (a.size >>> 8).toUInt8, (a.size >>> 16).toUInt8, (a.size >>> 24).toUInt8]

theorem Area.write_record (a : Area) : a.record.write = a.layout := by
  simp only [AreaRecord.write, AreaRecord.payload, record, littleEndian_four,
    littleEndian_reservedPair]
  rfl

theorem Footer.write_mk {n : Nat} (hn : n ≤ 65535) :
    (Footer.mk (UInt16.ofNat n) reservedPair regionMagic).write
      = [UInt8.ofNat n, UInt8.ofNat (n / 256), 0xFF, 0xFF, 0x69, 0xA2, 0xB2, 0x3B] := by
  have hsize : n < UInt16.size := Nat.lt_succ_of_le hn
  simp only [Footer.write, UInt16.toNat_ofNat_of_lt' hsize, littleEndian_reservedPair,
    littleEndian_regionMagic]
  rfl

/-! ## The bytes of a region -/

namespace Encoded

variable {areas : List Area} {e : Encoded}

theorem length_flatMap_layout (areas : List Area) :
    (areas.flatMap Area.layout).length = 14 * areas.length := by
  induction areas with
  | nil => rfl
  | cons a areas ih =>
    rw [List.flatMap_cons, List.length_append, ih, List.length_cons]
    show 14 + 14 * areas.length = _
    omega

/-- The bytes of the region that is written for areas. -/
theorem write_current_eq (hfit : 46 + 14 * areas.length ≤ 65535) :
    (Region.current 0 (areas.map Area.record) .zero).write
      = [1, 0xFF, 0xFF, 0xFF] ++ areas.flatMap Area.layout ++ ([1, 32] ++ List.replicate 32 0)
        ++ [UInt8.ofNat (46 + 14 * areas.length), UInt8.ofNat ((46 + 14 * areas.length) / 256),
          0xFF, 0xFF, 0x69, 0xA2, 0xB2, 0x3B] := by
  have hareas : (areas.map Area.record).flatMap AreaRecord.write = areas.flatMap Area.layout := by
    rw [List.flatMap_map]
    exact congrArg (areas.flatMap ·) (funext Area.write_record)
  rw [← Footer.write_mk hfit, ← hareas]
  simp only [Region.write, Region.current, List.length_map]
  rfl

/-- What is written, in terms of the areas alone. -/
theorem ofAreas_eq_ok_iff_record :
    ofAreas areas = .ok e ↔
      (∀ a ∈ areas, a.FitsRecord) ∧ 46 + 14 * areas.length ≤ 65535 ∧
        e = ⟨(Region.current 0 (areas.map Area.record) .zero).write, 6 + 14 * areas.length⟩ := by
  have hsize : UInt16.size = 65536 := rfl
  rw [ofAreas_eq_ok_iff]
  simp only [AreaRecord.forall₂_describes_iff_eq_map]
  constructor
  · rintro ⟨records, ⟨hfits, rfl⟩, hlength, he⟩
    rw [List.length_map] at hlength he
    exact ⟨hfits, by omega, he⟩
  · rintro ⟨hfits, hlength, he⟩
    refine ⟨_, ⟨hfits, rfl⟩, ?_, ?_⟩
    · rw [List.length_map]
      omega
    · rwa [List.length_map]

/-- Behind a header the fourteen bytes of each area stand in the order of the list. -/
theorem slice_flatMap_layout {header tail : Bytes} {i : Nat} {a : Area} (ha : areas[i]? = some a) :
    Bytes.slice (header ++ areas.flatMap Area.layout ++ tail) (header.length + 14 * i) 14
      = a.layout := by
  obtain ⟨hi, rfl⟩ := List.getElem?_eq_some_iff.1 ha
  have hcut : areas = areas.take i ++ areas[i] :: areas.drop (i + 1) := by
    rw [List.getElem_cons_drop, List.take_append_drop]
  have hfront : (header ++ (areas.take i).flatMap Area.layout).length
      = header.length + 14 * i := by
    rw [List.length_append, length_flatMap_layout, List.length_take_of_le (Nat.le_of_lt hi)]
  have hareas : areas.flatMap Area.layout = (areas.take i).flatMap Area.layout
      ++ (areas[i].layout ++ (areas.drop (i + 1)).flatMap Area.layout) := by
    rw [← List.flatMap_cons, ← List.flatMap_append, ← hcut]
  have hshape : header ++ areas.flatMap Area.layout ++ tail
      = header ++ (areas.take i).flatMap Area.layout ++ areas[i].layout
        ++ ((areas.drop (i + 1)).flatMap Area.layout ++ tail) := by
    simp only [hareas, List.append_assoc]
  rw [hshape]
  exact Bytes.slice_append hfront rfl

/-! ## Every list of areas -/

/-- Writing a region succeeds exactly when every id and every device fits one byte and the footer can
count the bytes, which it can for 4677 areas and no more.  The bytes are then a header, fourteen for
each area in its place, a zero hash record and a footer with their number.  Else the first area with
an oversized number is named, by its id before its device, and the length if there is none. -/
theorem ofAreas_layout (areas : List Area) :
    ((∃ e, ofAreas areas = .ok e) ↔
      (∀ a ∈ areas, a.id.toNat ≤ 255 ∧ a.device.toNat ≤ 255) ∧
        46 + 14 * areas.length ≤ 65535) ∧
    ((∃ e, ofAreas areas = .ok e) ↔
      (∀ a ∈ areas, a.id.toNat ≤ 255 ∧ a.device.toNat ≤ 255) ∧ areas.length ≤ 4677) ∧
    (∀ e, ofAreas areas = .ok e →
      e.bytes = [1, 0xFF, 0xFF, 0xFF] ++ areas.flatMap Area.layout
          ++ ([1, 32] ++ List.replicate 32 0)
          ++ [UInt8.ofNat (46 + 14 * areas.length), UInt8.ofNat ((46 + 14 * areas.length) / 256),
            0xFF, 0xFF, 0x69, 0xA2, 0xB2, 0x3B] ∧
        (∀ (i : Nat) (a : Area), areas[i]? = some a →
          e.bytes.slice (4 + 14 * i) 14 = a.layout) ∧
        e.length = 46 + 14 * areas.length ∧ e.hashOffset + 40 = e.length) ∧
    (∀ err, ofAreas areas = .error err ↔
      (∃ front a back, areas = front ++ a :: back ∧
        (∀ b ∈ front, b.id.toNat ≤ 255 ∧ b.device.toNat ≤ 255) ∧
        ((255 < a.id.toNat ∧ err = .doesNotFit .areaId a.id.toNat) ∨
          (a.id.toNat ≤ 255 ∧ 255 < a.device.toNat ∧
            err = .doesNotFit .deviceId a.device.toNat))) ∨
      ((∀ a ∈ areas, a.id.toNat ≤ 255 ∧ a.device.toNat ≤ 255) ∧
        65535 < 46 + 14 * areas.length ∧
        err = .doesNotFit .regionSize (46 + 14 * areas.length))) ∧
    NarrowField.regionSize.label = "meta region size" := by
  have hok : (∃ e, ofAreas areas = .ok e) ↔
      (∀ a ∈ areas, a.FitsRecord) ∧ 46 + 14 * areas.length ≤ 65535 := by
    simp only [ofAreas_eq_ok_iff_record, exists_and_left, exists_eq, and_true]
  refine ⟨hok, ?_, ?_, ?_, rfl⟩
  · refine hok.trans (and_congr_right fun _ => ?_)
    omega
  · intro e h
    obtain ⟨-, hfit, rfl⟩ := ofAreas_eq_ok_iff_record.1 h
    have hlength : (Region.current 0 (areas.map Area.record) .zero).write.length
        = 46 + 14 * areas.length := by
      rw [Region.length_write]
      simp only [Region.current, List.length_map]
    refine ⟨write_current_eq hfit, ?_, hlength, ?_⟩
    · intro i a ha
      rw [write_current_eq hfit, List.append_assoc _ ([1, 32] ++ _)]
      exact slice_flatMap_layout ha
    · rw [length, hlength]
      simp only
      omega
  · intro err
    rw [ofAreas_eq_error_iff]
    simp only [AreaRecord.mapM_ofArea_eq_error_iff, AreaRecord.ofArea_eq_error_iff]
    rfl

/-- An area with the largest id and device that a record holds. -/
def edgeArea : Area := ⟨"edge", 255, 255, 0x01020304, 0xA0B0C0D0⟩

/-- An area with a device that no record holds. -/
def wideDeviceArea : Area := ⟨"device", 255, 256, 0, 0⟩

/-- An area with an id and a device that no record holds. -/
def wideArea : Area := ⟨"both", 300, 400, 0, 0⟩

theorem ofAreas_layout_edgeArea :
    (∃ e, ofAreas (List.replicate 4677 edgeArea) = .ok e ∧
      e.length = 65524 ∧ e.hashOffset = 65484 ∧
      e.bytes.slice 65468 14
        = [2, 12, 0xFF, 0xFF, 0xFF, 0xFF, 4, 3, 2, 1, 0xD0, 0xC0, 0xB0, 0xA0]) ∧
      ofAreas (List.replicate 4678 edgeArea) = .error (.doesNotFit .regionSize 65538) ∧
      ofAreas [edgeArea, wideDeviceArea, wideArea] = .error (.doesNotFit .deviceId 256) ∧
      ofAreas [edgeArea, wideArea, wideDeviceArea] = .error (.doesNotFit .areaId 300) := by
  have hfits : ∀ n, ∀ a ∈ List.replicate n edgeArea, a.id.toNat ≤ 255 ∧ a.device.toNat ≤ 255 := by
    intro n a ha
    rw [List.eq_of_mem_replicate ha]
    decide
  refine ⟨?_, ?_, ?_, ?_⟩
  · obtain ⟨hsuccess, -, hbytes, -⟩ := ofAreas_layout (List.replicate 4677 edgeArea)
    obtain ⟨e, he⟩ := hsuccess.2 ⟨hfits 4677, by rw [List.length_replicate]; decide⟩
    obtain ⟨-, hslice, hlength, hoffset⟩ := hbytes e he
    rw [List.length_replicate] at hlength
    refine ⟨e, he, hlength, by omega, ?_⟩
    exact hslice 4676 edgeArea (by rw [List.getElem?_replicate, if_pos (by decide)])
  · obtain ⟨-, -, -, hfailure, -⟩ := ofAreas_layout (List.replicate 4678 edgeArea)
    refine (hfailure _).2 (.inr ⟨hfits 4678, ?_, ?_⟩)
    · rw [List.length_replicate]
      decide
    · rw [List.length_replicate]
  · obtain ⟨-, -, -, hfailure, -⟩ := ofAreas_layout [edgeArea, wideDeviceArea, wideArea]
    exact (hfailure _).2 (.inl ⟨[edgeArea], wideDeviceArea, [wideArea], rfl, by decide, .inr
      ⟨by decide, by decide, rfl⟩⟩)
  · obtain ⟨-, -, -, hfailure, -⟩ := ofAreas_layout [edgeArea, wideArea, wideDeviceArea]
    exact (hfailure _).2 (.inl ⟨[edgeArea], wideArea, [wideDeviceArea], rfl, by decide, .inl
      ⟨by decide, rfl⟩⟩)

end Encoded

end FlashSeal
