/-
FlashSeal.Proofs.EncodingRoundTrip — an encoded region decodes to the areas it was written for.

`decode_append_bytes` puts any bytes in front of an encoded region and decodes: the region that comes
back lies behind those bytes and describes the areas one by one, in their order, with nothing cut off
its numbers.

What a region records of an area is its four numbers, and not its name (`Area.recorded`).  Since
decoding gives them back, equal bytes mean equal numbers at every position; since records are made
from the numbers alone (`forall₂_describes_iff`), the converse holds as well.
-/
import FlashSeal.Proofs.Encoding

namespace FlashSeal

/-! ## What is recorded of an area -/

/-- The id, the device, the offset and the size. -/
def Area.recorded (a : Area) : UInt32 × UInt32 × UInt32 × UInt32 :=
  (a.id, a.device, a.offset, a.size)

namespace AreaRecord

/-- The numbers of the area that the record was written for. -/
def recorded (r : AreaRecord) : UInt32 × UInt32 × UInt32 × UInt32 :=
  (r.areaId.toUInt32, r.deviceId.toUInt32, r.offset, r.size)

theorem eq_toUInt32_iff {b : UInt8} {n : UInt32} : n = b.toUInt32 ↔ b.toNat = n.toNat := by
  rw [← UInt32.toNat_inj, UInt8.toNat_toUInt32]
  exact eq_comm

/-- To describe an area is to have its numbers and the fixed fields of every record. -/
theorem describes_iff {r : AreaRecord} {a : Area} :
    r.Describes a ↔
      (r.header = standardHeader ∧ r.pad16 = reservedPair) ∧ a.recorded = r.recorded := by
  simp only [Area.recorded, recorded, Prod.mk.injEq, eq_toUInt32_iff]
  constructor
  · intro h
    exact ⟨⟨h.header_eq, h.pad16_eq⟩, h.areaId_eq, h.deviceId_eq, h.offset_eq.symm,
      h.size_eq.symm⟩
  · rintro ⟨⟨hheader, hpad⟩, hid, hdevice, hoffset, hsize⟩
    exact ⟨hheader, hid, hdevice, hpad, hoffset.symm, hsize.symm⟩

theorem forall₂_describes_iff {records : List AreaRecord} {areas : List Area} :
    List.Forall₂ Describes records areas ↔
      (∀ r ∈ records, r.header = standardHeader ∧ r.pad16 = reservedPair) ∧
        areas.map Area.recorded = records.map recorded := by
  induction records generalizing areas with
  | nil => simp [eq_comm]
  | cons r records ih =>
    cases areas with
    | nil => simp
    | cons a areas =>
      rw [List.forall₂_cons, describes_iff, ih, List.forall_mem_cons, List.map_cons, List.map_cons,
        List.cons.injEq]
      exact and_and_and_comm

end AreaRecord

/-! ## The round trip -/

namespace Encoded

variable {areas others : List Area} {e : Encoded}

/-- Behind any bytes an encoded region decodes to the region that was written, moved there. -/
theorem exists_decode_append_bytes (h : ofAreas areas = .ok e) (front : Bytes) :
    ∃ records, List.Forall₂ AreaRecord.Describes records areas ∧
      e.length = 46 + 14 * records.length ∧ e.hashOffset = 6 + 14 * records.length ∧
      (Region.current front.length records .zero).Lawful ∧
      Region.decode (front ++ e.bytes) = .ok (.current front.length records .zero) := by
  obtain ⟨records, hdescribes, hfits, rfl⟩ := ofAreas_eq_ok_iff.1 h
  have hlawful : (Region.current front.length records .zero).Lawful :=
    Region.lawful_current (AreaRecord.headers_of_describes hdescribes) hfits
  exact ⟨records, hdescribes, Region.length_write _, rfl, hlawful,
    Region.decode_append_write hlawful rfl⟩

/-- Lists that record the same numbers are written alike. -/
theorem ofAreas_eq_of_recorded_eq (h : ofAreas areas = .ok e)
    (hsame : others.map Area.recorded = areas.map Area.recorded) : ofAreas others = .ok e := by
  obtain ⟨records, hdescribes, hfits, rfl⟩ := ofAreas_eq_ok_iff.1 h
  obtain ⟨hfixed, hrecorded⟩ := AreaRecord.forall₂_describes_iff.1 hdescribes
  have hothers : List.Forall₂ AreaRecord.Describes records others :=
    AreaRecord.forall₂_describes_iff.2 ⟨hfixed, hsame.trans hrecorded⟩
  exact ofAreas_eq_ok_iff.2 ⟨records, hothers, hfits, rfl⟩

/-- Lists that are written alike record the same numbers. -/
theorem recorded_eq_of_bytes_eq {e' : Encoded} (h : ofAreas areas = .ok e)
    (h' : ofAreas others = .ok e') (hbytes : e'.bytes = e.bytes) :
    others.map Area.recorded = areas.map Area.recorded := by
  obtain ⟨records, hdescribes, -, -, -, hdecode⟩ := exists_decode_append_bytes h []
  obtain ⟨records', hdescribes', -, -, -, hdecode'⟩ := exists_decode_append_bytes h' []
  rw [hbytes, hdecode] at hdecode'
  have hsame : records = records' := congrArg Region.areas (Except.ok.inj hdecode')
  calc others.map Area.recorded = records'.map AreaRecord.recorded :=
        (AreaRecord.forall₂_describes_iff.1 hdescribes').2
    _ = records.map AreaRecord.recorded := by rw [hsame]
    _ = areas.map Area.recorded := (AreaRecord.forall₂_describes_iff.1 hdescribes).2.symm

/-- An encoded region decodes, behind any bytes at all, to a region that lies there and describes the
areas it was written for.  So two lists of areas are written alike exactly when they have the same
numbers at every position. -/
theorem decode_append_bytes (h : ofAreas areas = .ok e) :
    (∀ front : Bytes, ∃ r, Region.decode (front ++ e.bytes) = .ok r ∧
      r.offset = front.length ∧ r.length = e.length ∧ r.header = .current ∧
      r.hash.bytes = zeroes 32 ∧ r.hashOffset = front.length + e.hashOffset ∧
      r.areas.length = areas.length ∧ List.Forall₂ AreaRecord.Describes r.areas areas) ∧
    ∀ others, (∃ e', ofAreas others = .ok e' ∧ e'.bytes = e.bytes) ↔
      others.map Area.recorded = areas.map Area.recorded := by
  constructor
  · intro front
    obtain ⟨records, hdescribes, hlength, hoffset, hlawful, hdecode⟩ :=
      exists_decode_append_bytes h front
    refine ⟨_, hdecode, rfl, hlawful.length_eq.trans hlength.symm, rfl, rfl, ?_,
      hdescribes.length_eq, hdescribes⟩
    rw [hlawful.hashOffset_eq, hoffset]
    simp only [Region.current]
    omega
  · intro others
    constructor
    · rintro ⟨e', he', hbytes⟩
      exact recorded_eq_of_bytes_eq h he' hbytes
    · intro hsame
      exact ⟨e, ofAreas_eq_of_recorded_eq h hsame, rfl⟩

/-- Areas with the largest numbers that their records can hold, not in the order of their ids. -/
def extremeAreas : List Area :=
  [⟨"top", 255, 0, 0xFFFFFFFF, 0⟩, ⟨"bottom", 0, 255, 0, 0xFFFFFFFF⟩]

theorem decode_append_bytes_extremeAreas :
    (∃ e r, ofAreas extremeAreas = .ok e ∧
      Region.decode ([0x69, 0xA2] ++ e.bytes) = .ok r ∧ r.offset = 2 ∧ r.hashOffset = 36 ∧
      List.Forall₂ AreaRecord.Describes r.areas extremeAreas) ∧
    ∃ e e', ofAreas extremeAreas = .ok e ∧
      ofAreas (extremeAreas.map ({ · with name := "" })) = .ok e' ∧ e'.bytes = e.bytes := by
  have h : ofAreas extremeAreas = .ok ⟨_, 34⟩ := rfl
  obtain ⟨hround, halike⟩ := decode_append_bytes h
  obtain ⟨r, hdecode, hoffset, -, -, -, hhash, -, hdescribes⟩ := hround [0x69, 0xA2]
  obtain ⟨e', he', hbytes⟩ := (halike (extremeAreas.map ({ · with name := "" }))).2 rfl
  exact ⟨⟨_, r, h, hdecode, hoffset, hhash, hdescribes⟩, ⟨_, e', h, he', hbytes⟩⟩

end Encoded

end FlashSeal
