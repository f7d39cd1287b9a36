/-
FlashSeal.Proofs.RecordCodec — each record of a region and its bytes determine each other.

For the header, the payload of an area record and the footer one statement says both directions:
the reader gives a record on a string exactly when the string is what the writer gives for that
record (`Header.read?_eq_some_iff`, `AreaRecord.ofPayload?_eq_some_iff`,
`Footer.read?_eq_some_iff`).  Whoever decodes a region cites these and never opens a reader.

A record is written behind whatever the buffer holds, and what is written are the record's bytes
(`Header.behind_writeTo` and the like).  So the bytes of a region are those of its records, one behind
another.

They rest on the fields alone: a word of two or four bytes is read back from what was written for
it, and any two or four bytes are what is written for the word that they spell.
-/
import Mathlib.Algebra.Group.Nat.Defs
import FlashSeal.Region.Record

namespace FlashSeal

/-! ## Words -/

theorem ofLittleEndian_littleEndian (w n : Nat) :
    ofLittleEndian (littleEndian w n) = n % 256 ^ w := by
  induction w generalizing n with
  | zero => simp [littleEndian, ofLittleEndian, Nat.mod_one]
  | succ w ih =>
    rw [littleEndian, ofLittleEndian, ih, Nat.pow_succ', Nat.mod_mul]
    simp

theorem ofLittleEndian_lt (bs : Bytes) : ofLittleEndian bs < 256 ^ bs.length := by
  induction bs with
  | nil => simp [ofLittleEndian]
  | cons b bs ih =>
    have hb : b.toNat < 256 := b.toNat_lt
    simp only [ofLittleEndian, List.length_cons, Nat.pow_succ]
    omega

theorem littleEndian_ofLittleEndian (bs : Bytes) :
    littleEndian bs.length (ofLittleEndian bs) = bs := by
  induction bs with
  | nil => rfl
  | cons b bs ih =>
    have hb : b.toNat < 256 := b.toNat_lt
    have hq : (b.toNat + 256 * ofLittleEndian bs) / 256 = ofLittleEndian bs := by omega
    have hr : UInt8.ofNat (b.toNat + 256 * ofLittleEndian bs) = b := by
      apply UInt8.toNat_inj.1
      rw [UInt8.toNat_ofNat']
      omega
    simp [littleEndian, ofLittleEndian, ih, hq, hr]

theorem ofNat_ofLittleEndian_16 (v : UInt16) :
    UInt16.ofNat (ofLittleEndian (littleEndian 2 v.toNat)) = v := by
  have hlt : v.toNat < 256 ^ 2 := v.toNat_lt
  rw [ofLittleEndian_littleEndian, Nat.mod_eq_of_lt hlt, UInt16.ofNat_toNat]

theorem ofNat_ofLittleEndian_32 (v : UInt32) :
    UInt32.ofNat (ofLittleEndian (littleEndian 4 v.toNat)) = v := by
  have hlt : v.toNat < 256 ^ 4 := v.toNat_lt
  rw [ofLittleEndian_littleEndian, Nat.mod_eq_of_lt hlt, UInt32.ofNat_toNat]

theorem littleEndian_toNat_16 (bs : Bytes) (h : bs.length = 2) :
    littleEndian 2 (UInt16.ofNat (ofLittleEndian bs)).toNat = bs := by
  have hlt : ofLittleEndian bs < UInt16.size := by
    have := ofLittleEndian_lt bs
    rwa [h] at this
  rw [UInt16.toNat_ofNat_of_lt' hlt, ← h, littleEndian_ofLittleEndian]

theorem littleEndian_toNat_32 (bs : Bytes) (h : bs.length = 4) :
    littleEndian 4 (UInt32.ofNat (ofLittleEndian bs)).toNat = bs := by
  have hlt : ofLittleEndian bs < UInt32.size := by
    have := ofLittleEndian_lt bs
    rwa [h] at this
  rw [UInt32.toNat_ofNat_of_lt' hlt, ← h, littleEndian_ofLittleEndian]

/-- A word of two bytes is written as its two bytes, the low one first. -/
theorem littleEndian_two (n : UInt16) :
    littleEndian 2 n.toNat = [n.toUInt8, (n >>> 8).toUInt8] := by
  have hhigh : UInt8.ofNat (n.toNat / 256) = (n >>> 8).toUInt8 := by
    apply UInt8.toNat_inj.1
    rw [UInt8.toNat_ofNat', UInt16.toNat_toUInt8, UInt16.toNat_shiftRight,
      Nat.shiftRight_eq_div_pow]
    rfl
  rw [← hhigh]
  rfl

theorem ofNat_eq_toUInt8_shiftRight (n k : UInt32) (hk : k.toNat < 32) :
    UInt8.ofNat (n.toNat / 2 ^ k.toNat) = (n >>> k).toUInt8 := by
  apply UInt8.toNat_inj.1
  rw [UInt8.toNat_ofNat', UInt32.toNat_toUInt8, UInt32.toNat_shiftRight, Nat.mod_eq_of_lt hk,
    Nat.shiftRight_eq_div_pow]

/-- A word of four bytes is written as its four bytes, the low one first. -/
theorem littleEndian_four (n : UInt32) :
    littleEndian 4 n.toNat
      = [n.toUInt8, (n >>> 8).toUInt8, (n >>> 16).toUInt8, (n >>> 24).toUInt8] := by
  have h1 := ofNat_eq_toUInt8_shiftRight n 8 (by decide)
  have h2 := ofNat_eq_toUInt8_shiftRight n 16 (by decide)
  have h3 := ofNat_eq_toUInt8_shiftRight n 24 (by decide)
  simp only [littleEndian, Nat.div_div_eq_div_mul]
  rw [← h1, ← h2, ← h3]
  rfl

/-! ## Header -/

namespace Header

@[simp] theorem length_write (h : Header) : h.write.length = 4 := rfl

/-- Writing a header puts its bytes behind those of the buffer. -/
theorem behind_writeTo (h : Header) (buf : Buffer) : h.writeTo.behind buf = buf ++ h.write := by
  simp only [writeTo, Writer.behind_bind, Writer.behind_push, Writer.behind_extend,
    Writer.append_append]
  rfl

/-- The reader accepts exactly what the writer gives. -/
theorem read?_eq_some_iff {bs : Bytes} {h : Header} : read? bs = some h ↔ bs = h.write := by
  constructor
  · intro hr
    unfold read? at hr
    split at hr
    · next version pad p0 p1 =>
      obtain rfl := Option.some.inj hr
      simp only [write, littleEndian_toNat_16 [p0, p1] rfl]
    · cases hr
  · rintro rfl
    show some (Header.mk _ _ (UInt16.ofNat (ofLittleEndian (littleEndian 2 h.pad16.toNat)))) = some h
    rw [ofNat_ofLittleEndian_16]

/-- Any four bytes are a header. -/
theorem exists_write_eq {bs : Bytes} (h : bs.length = 4) : ∃ header : Header, bs = header.write := by
  obtain ⟨version, pad, p0, p1, rfl⟩ : ∃ version pad p0 p1, bs = [version, pad, p0, p1] := by
    match bs, h with
    | [version, pad, p0, p1], _ => exact ⟨version, pad, p0, p1, rfl⟩
  exact ⟨_, read?_eq_some_iff.1 rfl⟩

end Header

/-! ## Records with a code and a length -/

namespace RecordHeader

/-- Writing a code and a length puts the two bytes behind those of the buffer. -/
theorem behind_writeTo (h : RecordHeader) (buf : Buffer) : h.writeTo.behind buf = buf ++ h.write := by
  simp only [writeTo, Writer.behind_bind, Writer.behind_push, Writer.append_append]
  rfl

/-- The reader accepts exactly what the writer gives. -/
theorem read?_eq_some_iff {bs : Bytes} {h : RecordHeader} : read? bs = some h ↔ bs = h.write := by
  constructor
  · intro hr
    unfold read? at hr
    split at hr
    · obtain rfl := Option.some.inj hr
      rfl
    · cases hr
  · rintro rfl
    rfl

/-- Any two bytes are a code and a length. -/
theorem exists_write_eq {bs : Bytes} (h : bs.length = 2) : ∃ header : RecordHeader, bs = header.write := by
  match bs, h with
  | [code, size], _ => exact ⟨⟨code, size⟩, rfl⟩

theorem eq_mk {h : RecordHeader} {code : UInt8} {n : Nat} (hn : n < UInt8.size)
    (hc : h.code = code) (hs : h.size.toNat = n) : h = ⟨code, UInt8.ofNat n⟩ := by
  obtain ⟨c, size⟩ := h
  have hsize : size = UInt8.ofNat n := by
    rw [← UInt8.toNat_inj, UInt8.toNat_ofNat_of_lt' hn]
    exact hs
  rw [hsize]
  exact congrArg (RecordHeader.mk · _) hc

end RecordHeader

namespace AreaRecord

@[simp] theorem length_write (r : AreaRecord) : r.write.length = 14 := rfl

/-- Writing a record puts its bytes behind those of the buffer. -/
theorem behind_writeTo (r : AreaRecord) (buf : Buffer) : r.writeTo.behind buf = buf ++ r.write := by
  simp only [writeTo, Writer.behind_bind, RecordHeader.behind_writeTo, Writer.behind_push,
    Writer.behind_extend, Writer.append_append]
  rfl

@[simp] theorem length_flatMap_write (rs : List AreaRecord) :
    (rs.flatMap write).length = 14 * rs.length := by
  induction rs with
  | nil => rfl
  | cons r rs ih =>
    rw [List.flatMap_cons, List.length_append, length_write, ih, List.length_cons]
    omega

/-- The reader accepts exactly the payload that the writer gives, under any header. -/
theorem ofPayload?_eq_some_iff {header : RecordHeader} {bs : Bytes} {r : AreaRecord} :
    ofPayload? header bs = some r ↔ r.header = header ∧ bs = r.payload := by
  constructor
  · intro hr
    unfold ofPayload? at hr
    split at hr
    · next areaId deviceId p0 p1 o0 o1 o2 o3 s0 s1 s2 s3 =>
      obtain rfl := Option.some.inj hr
      refine ⟨rfl, ?_⟩
      simp only [payload, littleEndian_toNat_16 [p0, p1] rfl,
        littleEndian_toNat_32 [o0, o1, o2, o3] rfl,
        littleEndian_toNat_32 [s0, s1, s2, s3] rfl, List.cons_append, List.nil_append]
    · cases hr
  · rintro ⟨rfl, rfl⟩
    show some (AreaRecord.mk _ _ _ (UInt16.ofNat (ofLittleEndian (littleEndian 2 r.pad16.toNat)))
      (UInt32.ofNat (ofLittleEndian (littleEndian 4 r.offset.toNat)))
      (UInt32.ofNat (ofLittleEndian (littleEndian 4 r.size.toNat)))) = some r
    rw [ofNat_ofLittleEndian_16, ofNat_ofLittleEndian_32, ofNat_ofLittleEndian_32]

/-- Any twelve bytes are a payload, under any header. -/
theorem exists_payload_eq (header : RecordHeader) {bs : Bytes} (h : bs.length = 12) :
    ∃ r : AreaRecord, r.header = header ∧ bs = r.payload := by
  match bs, h with
  | [_, _, _, _, _, _, _, _, _, _, _, _], _ => exact ⟨_, ofPayload?_eq_some_iff.1 rfl⟩

end AreaRecord

/-! ## Hash record -/

namespace HashRecord

@[simp] theorem length_write (r : HashRecord) : r.write.length = 34 := by
  rw [write, List.length_append, r.digest.length_bytes]
  rfl

/-- Writing a record puts its bytes behind those of the buffer. -/
theorem behind_writeTo (r : HashRecord) (buf : Buffer) : r.writeTo.behind buf = buf ++ r.write := by
  rw [writeTo, Writer.behind_bind, RecordHeader.behind_writeTo, Writer.behind_extend,
    Writer.append_append, write]

end HashRecord

/-! ## Footer -/

namespace Footer

@[simp] theorem length_write (f : Footer) : f.write.length = 8 := rfl

/-- Writing a footer puts its bytes behind those of the buffer. -/
theorem behind_writeTo (f : Footer) (buf : Buffer) : f.writeTo.behind buf = buf ++ f.write := by
  simp only [writeTo, Writer.behind_bind, Writer.behind_extend, Writer.append_append]
  rfl

/-- The reader accepts exactly what the writer gives. -/
theorem read?_eq_some_iff {bs : Bytes} {f : Footer} : read? bs = some f ↔ bs = f.write := by
  constructor
  · intro hr
    unfold read? at hr
    split at hr
    · next s0 s1 p0 p1 m0 m1 m2 m3 =>
      obtain rfl := Option.some.inj hr
      simp only [write, littleEndian_toNat_16 [s0, s1] rfl,
        littleEndian_toNat_16 [p0, p1] rfl,
        littleEndian_toNat_32 [m0, m1, m2, m3] rfl, List.cons_append, List.nil_append]
    · cases hr
  · rintro rfl
    show some (Footer.mk (UInt16.ofNat (ofLittleEndian (littleEndian 2 f.size.toNat)))
      (UInt16.ofNat (ofLittleEndian (littleEndian 2 f.pad16.toNat)))
      (UInt32.ofNat (ofLittleEndian (littleEndian 4 f.magic.toNat)))) = some f
    rw [ofNat_ofLittleEndian_16, ofNat_ofLittleEndian_16, ofNat_ofLittleEndian_32]

/-- Any eight bytes are a footer. -/
theorem exists_write_eq {bs : Bytes} (h : bs.length = 8) : ∃ footer : Footer, bs = footer.write := by
  match bs, h with
  | [_, _, _, _, _, _, _, _], _ => exact ⟨_, read?_eq_some_iff.1 rfl⟩

end Footer

end FlashSeal
