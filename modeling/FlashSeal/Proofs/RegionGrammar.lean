/-
FlashSeal.Proofs.RegionGrammar — the decoder accepts exactly the bytes of lawful regions.

A region is `Lawful` if its fields are those that a decoder may return: the known version, area
records with the standard header, the magic, a length that counts every record, and a hash offset
that counts every byte in front of the digest.  `decode_eq_ok_iff` says that a string decodes to a
region exactly when the region is lawful and the string is anything at all of `offset` bytes with
the region's own bytes behind it.

The walk along the records carries the proof.  `Records.StandIn` is its invariant: what the walk
collected is what stands in the bytes that it consumed, and its position is where they begin.
Soundness follows the walk, one case for each record that it can meet; completeness follows the
list of areas.
-/
import FlashSeal.Region
import FlashSeal.Proofs.RecordCodec
import FlashSeal.Proofs.Window

namespace FlashSeal

namespace Region

/-! ## One record -/

/-- A header is read wherever two bytes are left, and refused if its payload does not fit in front of
the footer. -/
theorem cutHeader_append (room : Nat) (h : RecordHeader) (rest : Bytes) :
    cutHeader room (h.write ++ rest) =
      if room < recordHeaderLength + h.size.toNat then .error .overrunsFooter else .ok (h, rest) :=
  rfl

/-- A header is accepted exactly where it stands and its payload fits. -/
theorem cutHeader_eq_ok_iff {room : Nat} {bs rest : Bytes} {h : RecordHeader} :
    cutHeader room bs = .ok (h, rest) ↔
      bs = h.write ++ rest ∧ recordHeaderLength + h.size.toNat ≤ room := by
  constructor
  · intro hc
    unfold cutHeader at hc
    split at hc
    · split at hc
      · cases hc
      · next hfit =>
        obtain ⟨rfl, rfl⟩ := Prod.mk.inj (Except.ok.inj hc)
        exact ⟨rfl, Nat.le_of_not_lt hfit⟩
    · cases hc
  · rintro ⟨rfl, hfit⟩
    rw [cutHeader_append, if_neg (Nat.not_lt.2 hfit)]

/-- Nothing may stand between the hash and the footer. -/
theorem closed_eq_ok_iff {room : Nat} {bs : Bytes} : closed room bs = .ok () ↔ room = 0 := by
  constructor
  · intro h
    unfold closed at h
    split at h
    · next hroom => exact hroom
    · split at h
      · cases h
      · split at h
        · cases h
        · split at h <;> cases h
  · rintro rfl
    rfl

end Region

/-! ## The walk along the records -/

/-- These records stand at the front of `bs`, which begin at `position`, and with no byte more they fill
the `room` in front of the footer. -/
structure Records.StandIn (records : Records) (position room : Nat) (bs : Bytes) : Prop where
  exists_bytes_eq : ∃ behind, bs = records.areas.flatMap AreaRecord.write
    ++ ((HashRecord.ofDigest records.hash).write ++ behind)
  room_eq : room = 34 + 14 * records.areas.length
  areaHeaders : ∀ a ∈ records.areas, a.header = AreaRecord.standardHeader
  /-- The digest stands behind the areas and its own record's header. -/
  hashOffset_eq : records.hashOffset = position + 14 * records.areas.length + 2

/-- One more area in front of records that stand behind it. -/
theorem Records.StandIn.cons {records : Records} {a : AreaRecord} {position room : Nat} {rest : Bytes}
    (hs : records.StandIn (position + 14) room rest) (ha : a.header = AreaRecord.standardHeader) :
    Records.StandIn { records with areas := a :: records.areas } position (room + 14)
      (a.write ++ rest) where
  exists_bytes_eq := by
    obtain ⟨behind, hrest⟩ := hs.exists_bytes_eq
    exact ⟨behind, by rw [List.flatMap_cons, List.append_assoc, ← hrest]⟩
  room_eq := by
    have := hs.room_eq
    simp only [List.length_cons]
    omega
  areaHeaders := by
    intro b hb
    rcases List.mem_cons.1 hb with rfl | hb
    · exact ha
    · exact hs.areaHeaders b hb
  hashOffset_eq := by
    have := hs.hashOffset_eq
    simp only [List.length_cons]
    omega

/-- Of bytes whose `room` is known, the records are exactly those in front of the footer. -/
theorem Records.StandIn.eq_of_append {records : Records} {position : Nat} {inner behind : Bytes}
    (hs : records.StandIn position inner.length (inner ++ behind)) :
    inner = records.areas.flatMap AreaRecord.write ++ (HashRecord.ofDigest records.hash).write := by
  obtain ⟨other, heq⟩ := hs.exists_bytes_eq
  rw [← List.append_assoc] at heq
  refine (List.append_inj heq ?_).1
  rw [hs.room_eq, List.length_append, AreaRecord.length_flatMap_write, HashRecord.length_write]
  omega

namespace Region

/-- The walk collects only what stands in its bytes. -/
theorem standIn_of_recordsFrom {position room : Nat} {bs : Bytes} {records : Records}
    (h : recordsFrom position room bs = .ok records) : records.StandIn position room bs := by
  -- Every refusal contradicts `h`; what is left is an area with a walk behind it, and the hash.
  fun_induction recordsFrom position room bs generalizing records with
  | case7 position room bs _ header tail hc _ hcode hsize payload rest hsplit a ha found hfound =>
    rename_i ih
    obtain ⟨rfl, hfit⟩ := cutHeader_eq_ok_iff.1 hc
    obtain ⟨rfl, -⟩ := Bytes.split?_eq_some_iff.1 hsplit
    obtain ⟨hh, rfl⟩ := AreaRecord.ofPayload?_eq_some_iff.1 ha
    have hstd : header = AreaRecord.standardHeader :=
      RecordHeader.eq_mk (by decide) hcode (Decidable.of_not_not hsize)
    obtain rfl := Except.ok.inj h
    have hroom : room = room - (recordHeaderLength + areaPayloadLength) + 14 := by
      rw [Decidable.of_not_not hsize] at hfit
      simp only [recordHeaderLength, areaPayloadLength] at hfit ⊢
      omega
    rw [hroom, ← hh, ← List.append_assoc, ← AreaRecord.write]
    exact (ih hfound).cons (hh.trans hstd)
  | case12 position room bs _ header tail hc _ hne hcode hsize payload rest hsplit digest hd =>
    rename_i hclosed
    obtain ⟨rfl, hfit⟩ := cutHeader_eq_ok_iff.1 hc
    obtain ⟨rfl, -⟩ := Bytes.split?_eq_some_iff.1 hsplit
    obtain rfl := Digest.ofBytes?_eq_some_iff.1 hd
    have hstd : header = HashRecord.standardHeader :=
      RecordHeader.eq_mk (by decide) hcode (Decidable.of_not_not hsize)
    have hroom := closed_eq_ok_iff.1 hclosed
    rw [Decidable.of_not_not hsize] at hfit
    obtain rfl := Except.ok.inj h
    refine ⟨⟨rest, by rw [hstd, ← List.append_assoc]; rfl⟩, ?_, by simp, rfl⟩
    simp only [recordHeaderLength, hashPayloadLength, digestLength] at hfit hroom ⊢
    simp only [List.length_nil]
    omega
  | _ => cases h

/-- At an area record the walk takes the record and goes on behind it. -/
theorem recordsFrom_area {a : AreaRecord} (ha : a.header = AreaRecord.standardHeader)
    (position room : Nat) (rest : Bytes) :
    recordsFrom position (room + 14) (a.write ++ rest) =
      match recordsFrom (position + 14) room rest with
      | .error defect => .error defect
      | .ok records => .ok { records with areas := a :: records.areas } := by
  have hc : cutHeader (room + 14) (a.write ++ rest) = .ok (AreaRecord.standardHeader, a.payload ++ rest) :=
    cutHeader_eq_ok_iff.2
      ⟨by rw [AreaRecord.write, ha, List.append_assoc], Nat.le_add_left 14 room⟩
  have hs : Bytes.split? areaPayloadLength (a.payload ++ rest) = some (a.payload, rest) :=
    Bytes.split?_eq_some_iff.2 ⟨rfl, rfl⟩
  have hp : AreaRecord.ofPayload? AreaRecord.standardHeader a.payload = some a :=
    AreaRecord.ofPayload?_eq_some_iff.2 ⟨ha, rfl⟩
  rw [recordsFrom, dif_neg (Nat.succ_ne_zero _), hc]
  simp only [hs, hp]
  rfl

/-- At a hash record the walk ends, if the bytes in front of the footer do. -/
theorem recordsFrom_hash (d : Digest) (position room : Nat) (rest : Bytes) :
    recordsFrom position (room + 34) ((HashRecord.ofDigest d).write ++ rest) =
      match closed room rest with
      | .error defect => .error defect
      | .ok () => .ok ⟨[], d, position + 2⟩ := by
  have hc : cutHeader (room + 34) ((HashRecord.ofDigest d).write ++ rest) =
      .ok (HashRecord.standardHeader, d.bytes ++ rest) :=
    cutHeader_eq_ok_iff.2 ⟨rfl, Nat.le_add_left 34 room⟩
  have hs : Bytes.split? hashPayloadLength (d.bytes ++ rest) = some (d.bytes, rest) :=
    Bytes.split?_eq_some_iff.2 ⟨rfl, d.length_bytes⟩
  have hd : Digest.ofBytes? d.bytes = some d := Digest.ofBytes?_eq_some_iff.2 rfl
  rw [recordsFrom, dif_neg (Nat.succ_ne_zero _), hc]
  simp only [hs, hd]
  rfl

/-- The walk collects all that stands in its bytes. -/
theorem recordsFrom_of_standIn {position room : Nat} {bs : Bytes} {records : Records}
    (h : records.StandIn position room bs) : recordsFrom position room bs = .ok records := by
  obtain ⟨areas, hash, hashOffset⟩ := records
  obtain ⟨⟨behind, rfl⟩, rfl, headers, hoff⟩ := h
  induction areas generalizing position with
  | nil =>
    obtain rfl : hashOffset = position + 2 := by simpa using hoff
    have hwalk := recordsFrom_hash hash position 0 behind
    rwa [closed_eq_ok_iff.2 rfl] at hwalk
  | cons a areas ih =>
    simp only [List.length_cons] at hoff
    have hwalk := recordsFrom_area (headers a List.mem_cons_self) position (34 + 14 * areas.length)
      (areas.flatMap AreaRecord.write ++ ((HashRecord.ofDigest hash).write ++ behind))
    rw [ih (fun b hb => headers b (List.mem_cons_of_mem a hb)) (by simp only; omega)] at hwalk
    rwa [← List.append_assoc] at hwalk

/-- The walk collects exactly what stands in its bytes. -/
theorem recordsFrom_eq_ok_iff {position room : Nat} {bs : Bytes} {records : Records} :
    recordsFrom position room bs = .ok records ↔ records.StandIn position room bs :=
  ⟨standIn_of_recordsFrom, recordsFrom_of_standIn⟩

/-! ## The whole region -/

/-- The fields that a decoder may return; the pads and the payloads of the areas are free. -/
structure Lawful (r : Region) : Prop where
  version_eq : r.header.version = layoutVersion
  areaHeaders : ∀ a ∈ r.areas, a.header = AreaRecord.standardHeader
  magic_eq : r.footer.magic = regionMagic
  /-- The footer counts every byte of the region. -/
  length_eq : r.length = 46 + 14 * r.areas.length
  /-- The digest stands behind the header, the areas and its own record's header. -/
  hashOffset_eq : r.hashOffset = r.offset + 4 + 14 * r.areas.length + 2

/-- The records between the header and the footer. -/
def records (r : Region) : Bytes :=
  r.areas.flatMap AreaRecord.write ++ (HashRecord.ofDigest r.hash).write

theorem write_eq (r : Region) : r.write = r.header.write ++ (r.records ++ r.footer.write) := by
  simp only [write, records, List.append_assoc]

@[simp] theorem length_records (r : Region) : r.records.length = 34 + 14 * r.areas.length := by
  rw [records, List.length_append, AreaRecord.length_flatMap_write, HashRecord.length_write]
  omega

@[simp] theorem length_write (r : Region) : r.write.length = 46 + 14 * r.areas.length := by
  simp only [write_eq, List.length_append, Header.length_write, length_records,
    Footer.length_write]
  omega

/-! ## The cut that the footer's length makes -/

/-- A string that ends in a footer is cut by a length that fits into the bytes in front of a
region, its header, its records and the footer. -/
theorem exists_cut {bs : Bytes} {footer : Footer}
    (hf : bs.drop (bs.length - footerLength) = footer.write)
    (hleast : leastRegionLength ≤ footer.size.toNat) (hfit : footer.size.toNat ≤ bs.length) :
    ∃ (front : Bytes) (header : Header) (inner : Bytes),
      bs = front ++ (header.write ++ (inner ++ footer.write)) ∧
        footer.size.toNat = 12 + inner.length := by
  rw [show leastRegionLength = 46 from rfl] at hleast
  have hbody : bs = bs.take (bs.length - footerLength) ++ footer.write := by
    rw [← hf, List.take_append_drop]
  have hbodylen : (bs.take (bs.length - footerLength)).length + 8 = bs.length := by
    simp only [List.length_take, footerLength]
    omega
  generalize bs.take (bs.length - footerLength) = body at hbody hbodylen
  -- Four bytes at the region's start are always a header.
  have hin : bs.length - footer.size.toNat + 4 ≤ body.length := by omega
  obtain ⟨front, head, inner, rfl, hfront, hhead⟩ := Bytes.exists_window hin
  obtain ⟨header, rfl⟩ := Header.exists_write_eq hhead
  refine ⟨front, header, inner, by rw [hbody]; simp only [List.append_assoc], ?_⟩
  simp only [List.length_append] at hbodylen
  omega

/-- On a string that is cut so, reading is the version test and the walk along the records. -/
theorem ofFooter_append (front : Bytes) (header : Header) {inner : Bytes} {footer : Footer}
    (hleast : leastRegionLength ≤ footer.size.toNat)
    (hsize : footer.size.toNat = 12 + inner.length) :
    ofFooter (front ++ (header.write ++ (inner ++ footer.write))) footer =
      if header.version ≠ layoutVersion then .error .unsupportedVersion
      else
        match recordsFrom (front.length + headerLength) inner.length (inner ++ footer.write) with
        | .error defect => .error defect
        | .ok records =>
          .ok ⟨front.length, header, records.areas, records.hash, records.hashOffset, footer⟩ := by
  have hlen : (front ++ (header.write ++ (inner ++ footer.write))).length
      = front.length + footer.size.toNat := by
    simp only [List.length_append, Header.length_write, Footer.length_write]
    omega
  have hin : ¬ (footer.size.toNat < leastRegionLength ∨
      front.length + footer.size.toNat < footer.size.toNat) := by omega
  have hcut : Bytes.split? headerLength (header.write ++ (inner ++ footer.write))
      = some (header.write, inner ++ footer.write) :=
    Bytes.split?_eq_some_iff.2 ⟨rfl, rfl⟩
  have hinner : (inner ++ footer.write).length - footerLength = inner.length := by
    rw [List.length_append, Footer.length_write, footerLength, Nat.add_sub_cancel]
  cases hwalk : recordsFrom (front.length + headerLength) inner.length (inner ++ footer.write) <;>
    simp only [ofFooter, hlen, hin, if_false, Nat.add_sub_cancel, List.drop_left, hcut,
      Header.read?_eq_some_iff.2 rfl, hinner, hwalk]

/-! ## The decoder -/

/-- The decoder asks for the magic, and from there it is `ofFooter`. -/
theorem decode_append_write_footer (body : Bytes) (footer : Footer) :
    decode (body ++ footer.write) =
      if footer.magic ≠ regionMagic then .error .noRegion
      else (ofFooter (body ++ footer.write) footer).mapError .malformed := by
  have hend : (body ++ footer.write).drop ((body ++ footer.write).length - footerLength)
      = footer.write := List.drop_left' (by simp [footerLength])
  rw [decode, if_neg (by simp [footerLength]), hend, Footer.read?_eq_some_iff.2 rfl]

theorem decode_append_footer (body : Bytes) {footer : Footer} (hm : footer.magic = regionMagic) :
    decode (body ++ footer.write) = (ofFooter (body ++ footer.write) footer).mapError .malformed := by
  rw [decode_append_write_footer, if_neg (not_not_intro hm)]

/-- A lawful region's bytes decode to it, whatever stands in front of them. -/
theorem decode_append_write {r : Region} (hr : r.Lawful) {front : Bytes}
    (hf : front.length = r.offset) : decode (front ++ r.write) = .ok r := by
  have hsize : r.footer.size.toNat = 12 + r.records.length := by
    rw [length_records, show r.footer.size.toNat = _ from hr.length_eq]
    omega
  have hleast : leastRegionLength ≤ r.footer.size.toNat := by
    rw [show r.footer.size.toNat = _ from hr.length_eq, show leastRegionLength = 46 from rfl]
    omega
  have hwalk : recordsFrom (r.offset + headerLength) r.records.length (r.records ++ r.footer.write)
      = .ok ⟨r.areas, r.hash, r.hashOffset⟩ :=
    recordsFrom_eq_ok_iff.2 ⟨⟨r.footer.write, by rw [records, List.append_assoc]⟩, length_records r,
      hr.areaHeaders, hr.hashOffset_eq⟩
  have hread : ofFooter (front ++ r.write) r.footer = .ok r := by
    rw [write_eq, ofFooter_append front r.header hleast hsize, hf, hwalk,
      if_neg (not_not_intro hr.version_eq)]
  have hshape : front ++ r.write = front ++ (r.header.write ++ r.records) ++ r.footer.write := by
    simp only [write_eq, List.append_assoc]
  rw [hshape, decode_append_footer _ hr.magic_eq, ← hshape, hread]
  rfl

/-- A string that decodes is a lawful region behind other bytes. -/
theorem exists_front_of_decode {bs : Bytes} {r : Region} (h : decode bs = .ok r) :
    r.Lawful ∧ ∃ front : Bytes, front.length = r.offset ∧ bs = front ++ r.write := by
  unfold decode at h
  split at h
  · cases h
  split at h
  · cases h
  next footer hfooter =>
  replace hfooter := Footer.read?_eq_some_iff.1 hfooter
  split at h
  · cases h
  next hmagic =>
  -- A length out of range is refused before anything is cut.
  by_cases hsize : footer.size.toNat < leastRegionLength ∨ bs.length < footer.size.toNat
  · rw [ofFooter, if_pos hsize] at h
    cases h
  obtain ⟨hleast, hfit⟩ : leastRegionLength ≤ footer.size.toNat ∧ footer.size.toNat ≤ bs.length := by
    omega
  obtain ⟨front, header, inner, rfl, hinner⟩ := exists_cut hfooter hleast hfit
  rw [ofFooter_append front header hleast hinner] at h
  split at h
  · cases h
  next hversion =>
  cases hwalk : recordsFrom (front.length + headerLength) inner.length (inner ++ footer.write) with
  | error defect =>
    rw [hwalk] at h
    cases h
  | ok records =>
    rw [hwalk] at h
    obtain rfl := Except.ok.inj h
    have hstand := recordsFrom_eq_ok_iff.1 hwalk
    obtain rfl := hstand.eq_of_append
    refine ⟨⟨Decidable.of_not_not hversion, hstand.areaHeaders, Decidable.of_not_not hmagic, ?_,
      hstand.hashOffset_eq⟩, front, rfl, by rw [write_eq]; rfl⟩
    simp only [List.length_append, AreaRecord.length_flatMap_write, HashRecord.length_write] at hinner
    simp only [length]
    omega

/-- The decoder accepts exactly the bytes of lawful regions, behind any bytes at all. -/
theorem decode_eq_ok_iff {bs : Bytes} {r : Region} :
    decode bs = .ok r ↔
      r.Lawful ∧ ∃ front : Bytes, front.length = r.offset ∧ bs = front ++ r.write := by
  constructor
  · exact exists_front_of_decode
  · rintro ⟨hr, front, hf, rfl⟩
    exact decode_append_write hr hf

/-! ## Around the digest -/

/-- The bytes in front of the digest. -/
def beforeHash (r : Region) : Bytes :=
  r.header.write ++ (r.areas.flatMap AreaRecord.write ++ HashRecord.standardHeader.write)

theorem write_eq_around_hash (r : Region) :
    r.write = r.beforeHash ++ r.hash.bytes ++ r.footer.write := by
  simp only [write, beforeHash, HashRecord.write, HashRecord.ofDigest, List.append_assoc]

@[simp] theorem length_beforeHash (r : Region) :
    r.beforeHash.length = 6 + 14 * r.areas.length := by
  simp only [beforeHash, List.length_append, Header.length_write, AreaRecord.length_flatMap_write,
    HashRecord.standardHeader, RecordHeader.write, List.length_cons, List.length_nil]
  omega

/-- Where a lawful region stands, its digest stands at its hash offset. -/
theorem slice_hashOffset {r : Region} (hr : r.Lawful) {front back : Bytes}
    (hf : front.length = r.offset) :
    Bytes.slice (front ++ r.write ++ back) r.hashOffset digestLength = r.hash.bytes := by
  have hbefore : (front ++ r.beforeHash).length = r.hashOffset := by
    rw [List.length_append, length_beforeHash, hf, hr.hashOffset_eq]
    omega
  rw [show front ++ r.write ++ back
      = (front ++ r.beforeHash) ++ r.hash.bytes ++ (r.footer.write ++ back) by
        simp only [write_eq_around_hash, List.append_assoc]]
  exact Bytes.slice_append hbefore r.hash.length_bytes

/-- Writing a digest at a lawful region's hash offset stores it in the region. -/
theorem overwrite_hashOffset {r : Region} (hr : r.Lawful) {front back : Bytes}
    (hf : front.length = r.offset) (d : Digest) :
    Bytes.overwrite (front ++ r.write ++ back) r.hashOffset d.bytes
      = front ++ { r with hash := d }.write ++ back := by
  have hbefore : (front ++ r.beforeHash).length = r.hashOffset := by
    rw [List.length_append, length_beforeHash, hf, hr.hashOffset_eq]
    omega
  rw [show front ++ r.write ++ back
      = (front ++ r.beforeHash) ++ r.hash.bytes ++ (r.footer.write ++ back) by
        simp only [write_eq_around_hash, List.append_assoc],
    Bytes.overwrite_append hbefore (d.length_bytes.trans r.hash.length_bytes.symm)]
  simp only [write_eq_around_hash, beforeHash, List.append_assoc]

/-! ## The grammar -/

/-- A string decodes to a region exactly when it is any bytes at all with the region's records
behind them, written one after another, and the region's fields are those of its records.  So
writing the region again gives the end of the string back. -/
theorem decode_ok_iff_grammar (data : Bytes) (r : Region) :
    (decode data = .ok r ↔
      ∃ front region : Bytes, front.length = r.offset ∧ data = front ++ region ∧
        region = r.header.write ++ r.areas.flatMap AreaRecord.write
          ++ ([0x01, 0x20] ++ r.hash.bytes) ++ r.footer.write ∧
        r.header.version = 1 ∧ (∀ a ∈ r.areas, a.header = ⟨2, 12⟩) ∧
        r.footer.magic = 0x3BB2A269 ∧
        r.footer.size.toNat = region.length ∧ region.length = 46 + 14 * r.areas.length ∧
        46 + 14 * r.areas.length ≤ 65535 ∧
        r.hashOffset = r.offset + 4 + 14 * r.areas.length + 2) ∧
    (decode data = .ok r →
      data.drop r.offset = r.write ∧ r.stop = data.length ∧ r.hashOffset + 40 = data.length) := by
  constructor
  · constructor
    · intro h
      obtain ⟨hr, front, hf, rfl⟩ := decode_eq_ok_iff.1 h
      have hsize : r.footer.size.toNat = 46 + 14 * r.areas.length := hr.length_eq
      have hbound : r.footer.size.toNat < 2 ^ 16 := r.footer.size.toNat_lt
      exact ⟨front, r.write, hf, rfl, rfl, hr.version_eq, hr.areaHeaders, hr.magic_eq,
        by rw [hsize, length_write], length_write r, by omega, hr.hashOffset_eq⟩
    · rintro ⟨front, region, hf, rfl, hregion, hversion, hareas, hmagic, hsize, hlength, -, hhash⟩
      have hwrite : region = r.write := hregion
      rw [hwrite]
      exact decode_append_write ⟨hversion, hareas, hmagic, hsize.trans hlength, hhash⟩ hf
  · intro h
    obtain ⟨hr, front, hf, rfl⟩ := decode_eq_ok_iff.1 h
    refine ⟨by rw [← hf, List.drop_left], ?_, ?_⟩
    · rw [stop, hr.length_eq, List.length_append, length_write, hf]
    · rw [hr.hashOffset_eq, List.length_append, length_write, hf]
      omega

/-- A region whose reserved bytes are none of them erased. -/
def oddPads : Region where
  offset := 3
  header := ⟨1, 0x00, 0x1234⟩
  areas := [⟨⟨2, 12⟩, 7, 1, 0xABCD, 0x8000, 0x1000⟩]
  hash := ⟨List.replicate 32 0xA5, rfl⟩
  hashOffset := 23
  footer := ⟨60, 0x0102, 0x3BB2A269⟩

theorem decode_ok_iff_grammar_oddPads :
    decode ([0x69, 0xA2, 0xB2] ++ oddPads.write) = .ok oddPads ∧
      ([0x69, 0xA2, 0xB2] ++ oddPads.write).drop 3 = oddPads.write ∧ oddPads.stop = 63 := by
  obtain ⟨haccepts, hloses⟩ := decode_ok_iff_grammar ([0x69, 0xA2, 0xB2] ++ oddPads.write) oddPads
  have h : decode ([0x69, 0xA2, 0xB2] ++ oddPads.write) = .ok oddPads :=
    haccepts.2 ⟨[0x69, 0xA2, 0xB2], oddPads.write, rfl, rfl, rfl, rfl, by decide, rfl, rfl, rfl,
      by decide, rfl⟩
  obtain ⟨hdrop, hstop, -⟩ := hloses h
  exact ⟨h, hdrop, hstop⟩

end Region

end FlashSeal
