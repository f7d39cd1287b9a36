/-
FlashSeal.Proofs.RecordBytes — records and the strings of their width, one to one.

`FixedCodec` says what a writer and a reader of records of a fixed width owe each other when records are
written behind a buffer that holds bytes already: any string of the width is read, and writing what was
read appends that string; what was appended is read back; and no two records are written alike.  All of
this follows from what is written and from what is read (`FixedCodec.of_read_iff`), so it is proved once
for the four kinds of records.

A writer and a reader that agree could still agree on a wrong place.  So `FixedCodec` fixes the bytes as
well, one by one and for every value of the fields (`Header.layout` and the like): each word stands low
byte first, and the pads are bytes like any others.
-/
import FlashSeal.Proofs.RecordCodec

namespace FlashSeal

/-! ## Writers and readers of a fixed width -/

/-- A writer and a reader of records of `width` bytes undo each other behind any buffer, and the bytes are
those of `layout`. -/
structure FixedCodec {α : Type} (width : Nat) (layout write : α → Bytes) (writeTo : α → Writer Unit)
    (read? : Bytes → Option α) : Prop where
  write_eq : ∀ r, write r = layout r
  length_write : ∀ r, (write r).length = width
  /-- Every string of the width is read, and the record that it is read as appends it again. -/
  written_of_read : ∀ (buf : Buffer) (bs : Bytes), bs.length = width →
    ∃ r, read? bs = some r ∧ (writeTo r).behind buf = buf ++ bs
  /-- What was appended are the record's bytes.  They are read back, and the bytes in front of them stand as
  they stood. -/
  read_of_written : ∀ (buf : Buffer) r, (writeTo r).behind buf = buf ++ write r ∧
    ((writeTo r).behind buf).toList.take buf.size = buf.toList ∧
    read? (((writeTo r).behind buf).toList.drop buf.size) = some r
  /-- No other string is read. -/
  length_of_read : ∀ bs r, read? bs = some r → bs.length = width
  injective : Function.Injective write

/-- It is enough that the writer appends the record's bytes, that the reader accepts these and nothing else,
and that every string of the width is written for some record. -/
theorem FixedCodec.of_read_iff {α : Type} {width : Nat} {layout write : α → Bytes}
    {writeTo : α → Writer Unit} {read? : Bytes → Option α} (heq : ∀ r, write r = layout r)
    (hlength : ∀ r, (write r).length = width)
    (hwrites : ∀ r (buf : Buffer), (writeTo r).behind buf = buf ++ write r)
    (hread : ∀ bs r, read? bs = some r ↔ bs = write r)
    (hwritten : ∀ bs, bs.length = width → ∃ r, bs = write r) :
    FixedCodec width layout write writeTo read? where
  write_eq := heq
  length_write := hlength
  written_of_read buf bs hbs := by
    obtain ⟨r, rfl⟩ := hwritten bs hbs
    exact ⟨r, (hread _ _).2 rfl, hwrites r buf⟩
  read_of_written buf r := by
    rw [hwrites, Array.toList_appendList, ← Array.length_toList, List.take_left, List.drop_left]
    exact ⟨rfl, rfl, (hread _ _).2 rfl⟩
  length_of_read bs r h := by
    rw [(hread bs r).1 h, hlength]
  injective r r' heq := by
    have h : read? (write r) = some r := (hread _ _).2 rfl
    rw [(hread _ r').2 heq] at h
    exact (Option.some.inj h).symm

/-! ## Header -/

namespace Header

/-- The four bytes of a header. -/
def layout (h : Header) : Bytes := [h.version, h.pad8, h.pad16.toUInt8, (h.pad16 >>> 8).toUInt8]

theorem write_eq_layout (h : Header) : h.write = h.layout := by
  rw [write, littleEndian_two, layout]

theorem fixedCodec : FixedCodec 4 layout write writeTo read? :=
  .of_read_iff write_eq_layout length_write behind_writeTo
    (fun _ _ => read?_eq_some_iff) fun _ => exists_write_eq

end Header

/-! ## Records with a code and a length -/

namespace RecordHeader

/-- The two bytes in front of a payload. -/
def layout (h : RecordHeader) : Bytes := [h.code, h.size]

theorem fixedCodec : FixedCodec 2 layout write writeTo read? :=
  .of_read_iff (fun _ => rfl) (fun _ => rfl) behind_writeTo
    (fun _ _ => read?_eq_some_iff) fun _ => exists_write_eq

end RecordHeader

namespace AreaRecord

/-- The fourteen bytes of an area record. -/
def layout (r : AreaRecord) : Bytes :=
  [r.header.code, r.header.size, r.areaId, r.deviceId, r.pad16.toUInt8, (r.pad16 >>> 8).toUInt8,
    r.offset.toUInt8, (r.offset >>> 8).toUInt8, (r.offset >>> 16).toUInt8, (r.offset >>> 24).toUInt8,
    r.size.toUInt8, (r.size >>> 8).toUInt8, (r.size >>> 16).toUInt8, (r.size >>> 24).toUInt8]

theorem write_eq_layout (r : AreaRecord) : r.write = r.layout := by
  rw [write, payload, littleEndian_two, littleEndian_four, littleEndian_four]
  rfl

/-- Reads an area record from its code and length and exactly its payload behind them. -/
def read? (bs : Bytes) : Option AreaRecord :=
  (RecordHeader.read? (bs.take recordHeaderLength)).bind fun header =>
    ofPayload? header (bs.drop recordHeaderLength)

/-- The reader accepts exactly what the writer gives. -/
theorem read?_eq_some_iff {bs : Bytes} {r : AreaRecord} : read? bs = some r ↔ bs = r.write := by
  simp only [read?, Option.bind_eq_some_iff, RecordHeader.read?_eq_some_iff, ofPayload?_eq_some_iff]
  constructor
  · rintro ⟨header, htake, rfl, hdrop⟩
    rw [write, ← htake, ← hdrop, List.take_append_drop]
  · rintro rfl
    exact ⟨r.header, rfl, rfl, rfl⟩

/-- Any fourteen bytes are an area record. -/
theorem exists_write_eq {bs : Bytes} (h : bs.length = 14) : ∃ r : AreaRecord, bs = r.write := by
  obtain ⟨header, hheader⟩ : ∃ header : RecordHeader, bs.take 2 = header.write :=
    RecordHeader.exists_write_eq (by rw [List.length_take, h]; rfl)
  obtain ⟨r, rfl, hpayload⟩ : ∃ r : AreaRecord, r.header = header ∧ bs.drop 2 = r.payload :=
    exists_payload_eq header (by rw [List.length_drop, h])
  refine ⟨r, ?_⟩
  rw [write, ← hheader, ← hpayload, List.take_append_drop]

theorem fixedCodec : FixedCodec 14 layout write writeTo read? :=
  .of_read_iff write_eq_layout length_write behind_writeTo
    (fun _ _ => read?_eq_some_iff) fun _ => exists_write_eq

end AreaRecord

/-! ## Footer -/

namespace Footer

/-- The eight bytes of a footer. -/
def layout (f : Footer) : Bytes :=
  [f.size.toUInt8, (f.size >>> 8).toUInt8, f.pad16.toUInt8, (f.pad16 >>> 8).toUInt8,
    f.magic.toUInt8, (f.magic >>> 8).toUInt8, (f.magic >>> 16).toUInt8, (f.magic >>> 24).toUInt8]

theorem write_eq_layout (f : Footer) : f.write = f.layout := by
  rw [write, littleEndian_two, littleEndian_two, littleEndian_four]
  rfl

theorem fixedCodec : FixedCodec 8 layout write writeTo read? :=
  .of_read_iff write_eq_layout length_write behind_writeTo
    (fun _ _ => read?_eq_some_iff) fun _ => exists_write_eq

end Footer

/-! ## All records -/

/-- Headers, codes with a length, area records and footers are the strings of four, two, fourteen and
eight bytes, one to one, whatever their fields hold, and each byte stands in its place.  An area record
is its code and length and any twelve bytes behind them. -/
theorem fixed_records_exact :
    FixedCodec 4 Header.layout Header.write Header.writeTo Header.read? ∧
    FixedCodec 2 RecordHeader.layout RecordHeader.write RecordHeader.writeTo RecordHeader.read? ∧
    FixedCodec 14 AreaRecord.layout AreaRecord.write AreaRecord.writeTo AreaRecord.read? ∧
    FixedCodec 8 Footer.layout Footer.write Footer.writeTo Footer.read? ∧
    (∀ (header : RecordHeader) (bs : Bytes) (buf : Buffer), bs.length = 12 →
      ∃ r, AreaRecord.ofPayload? header bs = some r ∧ r.header = header ∧
        r.writeTo.behind buf = buf ++ (header.write ++ bs)) ∧
    (∀ (r : AreaRecord) (buf : Buffer),
      AreaRecord.ofPayload? r.header ((r.writeTo.behind buf).toList.drop (buf.size + 2)) = some r) := by
  refine ⟨Header.fixedCodec, RecordHeader.fixedCodec, AreaRecord.fixedCodec, Footer.fixedCodec, ?_, ?_⟩
  · intro header bs buf hbs
    obtain ⟨r, rfl, rfl⟩ := AreaRecord.exists_payload_eq header hbs
    exact ⟨r, AreaRecord.ofPayload?_eq_some_iff.2 ⟨rfl, rfl⟩, rfl, r.behind_writeTo buf⟩
  · intro r buf
    have hpayload : (r.writeTo.behind buf).toList.drop (buf.size + 2) = r.payload := by
      rw [AreaRecord.behind_writeTo, Array.toList_appendList, ← Array.length_toList, ← List.drop_drop,
        List.drop_left]
      rfl
    exact AreaRecord.ofPayload?_eq_some_iff.2 ⟨rfl, hpayload⟩

/-- A code and a length that no region holds, and a pad that is never written. -/
theorem fixed_records_exact_foreign :
    ∃ r, AreaRecord.ofPayload? ⟨9, 200⟩ [1, 2, 3, 4, 5, 6, 7, 8, 9, 10, 11, 12] = some r ∧
      r.pad16 = 0x0403 ∧ r.offset = 0x08070605 ∧ r.size = 0x0C0B0A09 ∧
      r.writeTo.behind #[0xAA] = #[0xAA, 9, 200, 1, 2, 3, 4, 5, 6, 7, 8, 9, 10, 11, 12] := by
  obtain ⟨-, -, -, -, hpayload, -⟩ := fixed_records_exact
  obtain ⟨r, hread, -, hwrite⟩ :=
    hpayload ⟨9, 200⟩ [1, 2, 3, 4, 5, 6, 7, 8, 9, 10, 11, 12] #[0xAA] rfl
  obtain rfl := Option.some.inj hread
  exact ⟨_, hread, by decide, by decide, by decide, hwrite⟩

end FlashSeal
