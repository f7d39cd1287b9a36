/-
FlashSeal.Proofs.Encoding — what is written for a list of areas.

`Region.current` is the one region that this library writes for given area records and a given
digest.  `Encoded.ofAreas_eq_ok_iff` says that writing succeeds exactly when each area has a record
that describes it without loss and the footer can count the bytes, and that the bytes are then
those of `Region.current` with a zero digest.  `Encoded.ofAreas_eq_error_iff` says how it fails: as
the first area without a record does, and with the length only if every area has one.

An area has a record exactly when its id and its device fit one byte each (`Area.FitsRecord`), and
then it is `Area.record`.
-/
import Mathlib.Data.List.Forall2
import FlashSeal.Proofs.Outcome
import FlashSeal.Proofs.RegionGrammar
import FlashSeal.Region.Encoded

namespace FlashSeal

/-! ## Area records -/

/-- A byte is what a value is narrowed to exactly when it is that value. -/
theorem narrowToByte_eq_ok_iff {field : NarrowField} {value : Nat} {b : UInt8} :
    narrowToByte field value = .ok b ↔ b.toNat = value := by
  unfold narrowToByte
  split
  · next h =>
    rw [Except.ok.injEq, ← UInt8.toNat_inj, UInt8.toNat_ofNat_of_lt' h]
    exact eq_comm
  · next h =>
    constructor
    · intro hb
      cases hb
    · rintro rfl
      exact absurd b.toNat_lt h

theorem narrowToByte_eq_error_iff {field : NarrowField} {value : Nat} {e : RegionError} :
    narrowToByte field value = .error e ↔ 255 < value ∧ e = .doesNotFit field value := by
  have hsize : UInt8.size = 256 := rfl
  unfold narrowToByte
  split
  · next h => simp [show ¬ 255 < value by omega]
  · next h => simp [show 255 < value by omega, eq_comm]

namespace Area

/-- The numbers that a record holds in one byte fit one byte. -/
def FitsRecord (a : Area) : Prop := a.id.toNat ≤ 255 ∧ a.device.toNat ≤ 255

/-- The record of the area, with its id and its device cut to one byte. -/
def record (a : Area) : AreaRecord :=
  ⟨AreaRecord.standardHeader, a.id.toUInt8, a.device.toUInt8, reservedPair, a.offset, a.size⟩

end Area

namespace AreaRecord

/-- The record is the one that is written for the area: nothing of it is cut off. -/
structure Describes (r : AreaRecord) (a : Area) : Prop where
  header_eq : r.header = standardHeader
  areaId_eq : r.areaId.toNat = a.id.toNat
  deviceId_eq : r.deviceId.toNat = a.device.toNat
  pad16_eq : r.pad16 = reservedPair
  offset_eq : r.offset = a.offset
  size_eq : r.size = a.size

/-- An area has a record exactly when some record describes it, and that record is the one. -/
theorem ofArea_eq_ok_iff {a : Area} {r : AreaRecord} : ofArea a = .ok r ↔ r.Describes a := by
  simp only [ofArea, Except.bind_eq_ok_iff, narrowToByte_eq_ok_iff]
  constructor
  · rintro ⟨areaId, hid, deviceId, hdevice, h⟩
    obtain rfl := Except.ok.inj h
    exact ⟨rfl, hid, hdevice, rfl, rfl, rfl⟩
  · intro h
    obtain ⟨header, areaId, deviceId, pad16, offset, size⟩ := r
    obtain ⟨rfl, hid, hdevice, rfl, rfl, rfl⟩ := h
    exact ⟨areaId, hid, deviceId, hdevice, rfl⟩

/-- A byte is a word exactly when the word fits one byte and is cut to that byte. -/
theorem toNat_eq_iff_eq_toUInt8 {b : UInt8} {n : UInt32} :
    b.toNat = n.toNat ↔ n.toNat ≤ 255 ∧ b = n.toUInt8 := by
  have hb : b.toNat < 256 := b.toNat_lt
  rw [← UInt8.toNat_inj, UInt32.toNat_toUInt8]
  omega

/-- The record that describes an area, if there is one, is the area's record. -/
theorem describes_iff_eq_record {a : Area} {r : AreaRecord} :
    r.Describes a ↔ a.FitsRecord ∧ r = a.record := by
  constructor
  · intro h
    obtain ⟨hid, hid'⟩ := toNat_eq_iff_eq_toUInt8.1 h.areaId_eq
    obtain ⟨hdevice, hdevice'⟩ := toNat_eq_iff_eq_toUInt8.1 h.deviceId_eq
    obtain ⟨header, areaId, deviceId, pad16, offset, size⟩ := r
    obtain ⟨rfl, -, -, rfl, rfl, rfl⟩ := h
    subst hid' hdevice'
    exact ⟨⟨hid, hdevice⟩, rfl⟩
  · rintro ⟨⟨hid, hdevice⟩, rfl⟩
    exact ⟨rfl, toNat_eq_iff_eq_toUInt8.2 ⟨hid, rfl⟩, toNat_eq_iff_eq_toUInt8.2 ⟨hdevice, rfl⟩, rfl,
      rfl, rfl⟩

theorem exists_ofArea_iff {a : Area} : (∃ r, ofArea a = .ok r) ↔ a.FitsRecord := by
  simp only [ofArea_eq_ok_iff, describes_iff_eq_record, exists_and_left, exists_eq, and_true]

/-- An area without a record has an id that does not fit, or else a device that does not. -/
theorem ofArea_eq_error_iff {a : Area} {e : RegionError} :
    ofArea a = .error e ↔
      (255 < a.id.toNat ∧ e = .doesNotFit .areaId a.id.toNat) ∨
      (a.id.toNat ≤ 255 ∧ 255 < a.device.toNat ∧
        e = .doesNotFit .deviceId a.device.toNat) := by
  simp only [ofArea, Except.bind_eq_error_iff, narrowToByte_eq_error_iff, narrowToByte_eq_ok_iff,
    toNat_eq_iff_eq_toUInt8, pure, Except.pure, reduceCtorEq, and_false, exists_false, or_false,
    exists_and_left, exists_and_right, exists_eq, and_true]

/-- A list of areas has records exactly when some list of records describes it one by one. -/
theorem mapM_ofArea_eq_ok_iff {areas : List Area} {records : List AreaRecord} :
    areas.mapM ofArea = .ok records ↔ List.Forall₂ Describes records areas := by
  induction areas generalizing records with
  | nil =>
    rw [List.mapM_nil, List.forall₂_nil_right_iff]
    exact ⟨fun h => (Except.ok.inj h).symm, fun h => congrArg Except.ok h.symm⟩
  | cons a areas ih =>
    rw [List.mapM_cons, Except.bind_eq_ok_iff, List.forall₂_cons_right_iff]
    constructor
    · rintro ⟨r, hr, h⟩
      obtain ⟨rest, hrest, h⟩ := Except.bind_eq_ok_iff.1 h
      exact ⟨r, rest, ofArea_eq_ok_iff.1 hr, ih.1 hrest, (Except.ok.inj h).symm⟩
    · rintro ⟨r, rest, hr, hrest, rfl⟩
      exact ⟨r, ofArea_eq_ok_iff.2 hr, Except.bind_eq_ok_iff.2 ⟨rest, ih.2 hrest, rfl⟩⟩

theorem forall₂_describes_iff_eq_map {areas : List Area} {records : List AreaRecord} :
    List.Forall₂ Describes records areas ↔
      (∀ a ∈ areas, a.FitsRecord) ∧ records = areas.map Area.record := by
  induction areas generalizing records with
  | nil => simp
  | cons a areas ih =>
    rw [List.forall₂_cons_right_iff, List.forall_mem_cons, List.map_cons]
    constructor
    · rintro ⟨r, rest, hr, hrest, rfl⟩
      obtain ⟨ha, rfl⟩ := describes_iff_eq_record.1 hr
      obtain ⟨hareas, rfl⟩ := ih.1 hrest
      exact ⟨⟨ha, hareas⟩, rfl⟩
    · rintro ⟨⟨ha, hareas⟩, rfl⟩
      exact ⟨_, _, describes_iff_eq_record.2 ⟨ha, rfl⟩, ih.2 ⟨hareas, rfl⟩, rfl⟩

/-- Areas fail to have records as the first of them fails that has none. -/
theorem mapM_ofArea_eq_error_iff {areas : List Area} {e : RegionError} :
    areas.mapM ofArea = .error e ↔
      ∃ front a back, areas = front ++ a :: back ∧ (∀ b ∈ front, b.FitsRecord) ∧
        ofArea a = .error e := by
  simp only [Except.mapM_eq_error_iff, exists_ofArea_iff]

theorem headers_of_describes {records : List AreaRecord} {areas : List Area}
    (h : List.Forall₂ Describes records areas) : ∀ r ∈ records, r.header = standardHeader := by
  induction h with
  | nil => simp
  | cons hr _ ih => exact List.forall_mem_cons.2 ⟨hr.header_eq, ih⟩

end AreaRecord

/-! ## Regions -/

namespace Region

/-- The region that this library writes for area records and a digest, every reserved byte
erased. -/
def current (offset : Nat) (areas : List AreaRecord) (hash : Digest) : Region where
  offset := offset
  header := .current
  areas := areas
  hash := hash
  hashOffset := offset + 4 + 14 * areas.length + 2
  footer := ⟨UInt16.ofNat (46 + 14 * areas.length), reservedPair, regionMagic⟩

/-- A region whose length the footer can hold is lawful as it is written. -/
theorem lawful_current {offset : Nat} {areas : List AreaRecord} {hash : Digest}
    (hstd : ∀ a ∈ areas, a.header = AreaRecord.standardHeader)
    (hfit : 46 + 14 * areas.length < UInt16.size) : (current offset areas hash).Lawful where
  version_eq := rfl
  areaHeaders := hstd
  magic_eq := rfl
  length_eq := UInt16.toNat_ofNat_of_lt' hfit
  hashOffset_eq := rfl

end Region

namespace Encoded

/-- The record of an area goes behind the buffer, or the area has none. -/
theorem on_writeArea (a : Area) (buf : Buffer) :
    (writeArea a).on buf =
      match AreaRecord.ofArea a with
      | .ok r => (.ok (), buf ++ r.write)
      | .error e => (.error e, buf) := by
  rw [writeArea, Work.on_bind, Work.on_ofExcept]
  cases AreaRecord.ofArea a with
  | error e => rfl
  | ok r => simp only [Writer.on_liftM, AreaRecord.behind_writeTo]

/-- Records of areas go behind the buffer one by one. -/
theorem on_forM_writeArea {areas : List Area} {records : List AreaRecord}
    (h : areas.mapM AreaRecord.ofArea = .ok records) (buf : Buffer) :
    (areas.forM writeArea).on buf = (.ok (), buf ++ records.flatMap AreaRecord.write) := by
  induction areas generalizing records buf with
  | nil =>
    obtain rfl : [] = records := Except.ok.inj h
    rfl
  | cons a areas ih =>
    rw [List.mapM_cons, Except.bind_eq_ok_iff] at h
    obtain ⟨r, hr, h⟩ := h
    obtain ⟨rest, hrest, h⟩ := Except.bind_eq_ok_iff.1 h
    obtain rfl := Except.ok.inj h
    rw [List.forM_eq_forM, List.forM_cons, Work.on_bind, on_writeArea, hr]
    simp only
    rw [← List.forM_eq_forM, ih hrest, List.flatMap_cons, Writer.append_append]

/-- The first area without a record ends the work. -/
theorem on_forM_writeArea_error {areas : List Area} {e : RegionError}
    (h : areas.mapM AreaRecord.ofArea = .error e) (buf : Buffer) :
    ((areas.forM writeArea).on buf).1 = .error e := by
  induction areas generalizing buf with
  | nil => cases h
  | cons a areas ih =>
    rw [List.mapM_cons, Except.bind_eq_error_iff] at h
    rw [List.forM_eq_forM, List.forM_cons, Work.on_bind, on_writeArea]
    rcases h with hr | ⟨r, hr, h⟩
    · rw [hr]
    · rw [hr]
      simp only
      rw [← List.forM_eq_forM]
      apply ih
      rcases Except.bind_eq_error_iff.1 h with hrest | ⟨rest, -, h⟩
      · exact hrest
      · cases h

/-- An area without a record is told before the length is. -/
theorem ofAreas_of_mapM_error {areas : List Area} {e : RegionError}
    (h : areas.mapM AreaRecord.ofArea = .error e) : ofAreas areas = .error e := by
  have hrecords := on_forM_writeArea_error h (Header.current.writeTo.behind #[])
  rcases hon : (areas.forM writeArea).on (Header.current.writeTo.behind #[]) with ⟨outcome, buf⟩
  obtain rfl : outcome = .error e := by rw [hon] at hrecords; exact hrecords
  simp only [ofAreas, writeAreas, Work.on_bind, Writer.on_liftM, hon]
  rfl

/-- What stands in front of the footer. -/
def body (records : List AreaRecord) : Bytes :=
  Header.current.write ++ records.flatMap AreaRecord.write ++ (HashRecord.ofDigest .zero).write

theorem length_body (records : List AreaRecord) :
    (body records).length = 38 + 14 * records.length := by
  simp only [body, List.length_append, Header.length_write, AreaRecord.length_flatMap_write,
    HashRecord.length_write]
  omega

/-- Once every area has a record, only the footer is left to write. -/
theorem on_writeAreas {areas : List Area} {records : List AreaRecord}
    (h : areas.mapM AreaRecord.ofArea = .ok records) :
    (writeAreas areas).on #[] =
      match Footer.behind (38 + 14 * records.length) with
      | .ok footer => (.ok (6 + 14 * records.length), (#[] : Buffer) ++ (body records ++ footer.write))
      | .error e => (.error e, (#[] : Buffer) ++ body records) := by
  have hbuf : (HashRecord.ofDigest .zero).writeTo.behind
      (Header.current.writeTo.behind #[] ++ records.flatMap AreaRecord.write)
        = (#[] : Buffer) ++ body records := by
    simp only [HashRecord.behind_writeTo, Header.behind_writeTo, Writer.append_append, body,
      List.append_assoc]
  have hsize : ((#[] : Buffer) ++ body records).size = 38 + 14 * records.length := by
    rw [← Array.length_toList, Array.toList_appendList, List.nil_append, length_body]
  have hdigest : 38 + 14 * records.length - digestLength = 6 + 14 * records.length := by
    rw [digestLength]
    omega
  simp only [writeAreas, Work.on_bind, Writer.on_liftM, Work.on_get, Work.on_ofExcept, Work.on_pure,
    on_forM_writeArea h, hbuf]
  rw [hsize, hdigest]
  cases Footer.behind (38 + 14 * records.length) with
  | error e => rfl
  | ok footer =>
    simp only [Footer.behind_writeTo]
    rw [Writer.append_append]

theorem body_append_footer (records : List AreaRecord) :
    body records ++ Footer.write ⟨UInt16.ofNat (46 + 14 * records.length), reservedPair, regionMagic⟩
      = (Region.current 0 records .zero).write := rfl

/-- Once every area has a record, only the footer can refuse. -/
theorem ofAreas_of_mapM {areas : List Area} {records : List AreaRecord}
    (h : areas.mapM AreaRecord.ofArea = .ok records) :
    ofAreas areas =
      if 46 + 14 * records.length < UInt16.size then
        .ok ⟨(Region.current 0 records .zero).write, 6 + 14 * records.length⟩
      else .error (.doesNotFit .regionSize (46 + 14 * records.length)) := by
  have htotal : 38 + 14 * records.length + footerLength = 46 + 14 * records.length := by
    rw [footerLength]
    omega
  have hfooter : Footer.behind (38 + 14 * records.length) =
      if 46 + 14 * records.length < UInt16.size then
        .ok ⟨UInt16.ofNat (46 + 14 * records.length), reservedPair, regionMagic⟩
      else .error (.doesNotFit .regionSize (46 + 14 * records.length)) := by
    rw [Footer.behind, htotal]
  rw [ofAreas, on_writeAreas h, hfooter]
  by_cases hfit : 46 + 14 * records.length < UInt16.size
  · rw [if_pos hfit, if_pos hfit]
    simp only [Except.map]
    rw [body_append_footer, Writer.toList_empty_append]
  · rw [if_neg hfit, if_neg hfit]
    rfl

/-- Writing a region succeeds exactly when records describe the areas and the footer can count the
bytes; it gives the bytes of the region with a zero digest, and where that digest stands. -/
theorem ofAreas_eq_ok_iff {areas : List Area} {e : Encoded} :
    ofAreas areas = .ok e ↔
      ∃ records, List.Forall₂ AreaRecord.Describes records areas ∧
        46 + 14 * records.length < UInt16.size ∧
        e = ⟨(Region.current 0 records .zero).write, 6 + 14 * records.length⟩ := by
  constructor
  · intro h
    cases hrecords : areas.mapM AreaRecord.ofArea with
    | error e =>
      rw [ofAreas_of_mapM_error hrecords] at h
      cases h
    | ok records =>
      rw [ofAreas_of_mapM hrecords] at h
      split at h
      · next hfit =>
        exact ⟨records, AreaRecord.mapM_ofArea_eq_ok_iff.1 hrecords, hfit, (Except.ok.inj h).symm⟩
      · cases h
  · rintro ⟨records, hdescribes, hfit, rfl⟩
    rw [ofAreas_of_mapM (AreaRecord.mapM_ofArea_eq_ok_iff.2 hdescribes), if_pos hfit]

theorem length_pos_of_ofAreas {areas : List Area} {e : Encoded} (h : ofAreas areas = .ok e) :
    0 < e.length := by
  obtain ⟨records, -, -, rfl⟩ := ofAreas_eq_ok_iff.1 h
  rw [length, Region.length_write]
  omega

/-- Writing a region fails as the first area that has no record, and for its length only if every area
has one. -/
theorem ofAreas_eq_error_iff {areas : List Area} {e : RegionError} :
    ofAreas areas = .error e ↔
      areas.mapM AreaRecord.ofArea = .error e ∨
        ((∀ a ∈ areas, a.FitsRecord) ∧ 65535 < 46 + 14 * areas.length ∧
          e = .doesNotFit .regionSize (46 + 14 * areas.length)) := by
  have hsize : UInt16.size = 65536 := rfl
  cases hrecords : areas.mapM AreaRecord.ofArea with
  | error e' =>
    obtain ⟨front, a, back, rfl, -, ha⟩ := AreaRecord.mapM_ofArea_eq_error_iff.1 hrecords
    have hwriting : ofAreas (front ++ a :: back) = .error e' := ofAreas_of_mapM_error hrecords
    have hunfit : ¬ ∀ b ∈ front ++ a :: back, b.FitsRecord := by
      intro hfits
      obtain ⟨r, hr⟩ := AreaRecord.exists_ofArea_iff.2 (hfits a (by simp))
      rw [ha] at hr
      cases hr
    simp only [hwriting, Except.error.injEq]
    refine (or_iff_left ?_).symm
    rintro ⟨hfits, -⟩
    exact hunfit hfits
  | ok records =>
    obtain ⟨hfits, rfl⟩ :=
      AreaRecord.forall₂_describes_iff_eq_map.1 (AreaRecord.mapM_ofArea_eq_ok_iff.1 hrecords)
    rw [ofAreas_of_mapM hrecords, List.length_map]
    split
    · next hfit => simp [show ¬ 65535 < 46 + 14 * areas.length by omega]
    · next hlong =>
      have hlong' : 65535 < 46 + 14 * areas.length := by omega
      simp only [reduceCtorEq, false_or, and_iff_right hfits, and_iff_right hlong',
        Except.error.injEq]
      exact eq_comm

/-- Writing a region fails for no other reason than a value that does not fit its field. -/
theorem exists_of_ofAreas_eq_error {areas : List Area} {e : RegionError}
    (h : ofAreas areas = .error e) : ∃ field value, e = .doesNotFit field value := by
  rcases ofAreas_eq_error_iff.1 h with hrecords | ⟨-, -, rfl⟩
  · obtain ⟨front, a, back, -, -, ha⟩ := AreaRecord.mapM_ofArea_eq_error_iff.1 hrecords
    rcases AreaRecord.ofArea_eq_error_iff.1 ha with ⟨-, rfl⟩ | ⟨-, -, rfl⟩ <;> exact ⟨_, _, rfl⟩
  · exact ⟨_, _, rfl⟩

end Encoded

end FlashSeal
