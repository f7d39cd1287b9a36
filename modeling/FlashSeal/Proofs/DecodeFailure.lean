/-
FlashSeal.Proofs.DecodeFailure — why decoding fails, and that it never reads too far.

Decoding asks for the magic, the length, the version and the records, in this order, and fails at the
first that is wrong.  Past the magic and the length the string has a frame: bytes in front, a header,
records and a footer (`Framed`).  In a frame only the version and the records are left to be wrong
(`Framed.decode_bytes_eq_error_iff`), and what is wrong with records is the first defect of a run of
them.  No defect of a frame is a read that goes too far (`Framed.mem_of_decode_bytes`).
-/
import FlashSeal.Proofs.Outcome
import FlashSeal.Proofs.RecordRuns

namespace FlashSeal

namespace Region

variable {data : Bytes} {defect : Defect}

/-! ## The footer -/

/-- The length of the region that ends the string, as the footer there gives it. -/
def footerSize (data : Bytes) : Nat := ofLittleEndian (data.slice (data.length - footerLength) 2)

theorem exists_footer (h : footerLength ≤ data.length) :
    ∃ (body : Bytes) (footer : Footer), data = body ++ footer.write := by
  obtain ⟨footer, hfooter⟩ : ∃ footer : Footer,
      data.drop (data.length - footerLength) = footer.write :=
    Footer.exists_write_eq (by rw [List.length_drop, footerLength] at *; omega)
  exact ⟨data.take (data.length - footerLength), footer, by rw [← hfooter, List.take_append_drop]⟩

theorem footerSize_append (body : Bytes) (footer : Footer) :
    footerSize (body ++ footer.write) = footer.size.toNat := by
  have hfront : (body ++ footer.write).length - footerLength = body.length := by
    simp [footerLength]
  have hcut : body ++ footer.write = body ++ littleEndian 2 footer.size.toNat
      ++ (littleEndian 2 footer.pad16.toNat ++ littleEndian 4 footer.magic.toNat) := by
    simp only [Footer.write, List.append_assoc]
  have hlt : footer.size.toNat < 256 ^ 2 := footer.size.toNat_lt
  rw [footerSize, hfront, hcut, Bytes.slice_append rfl (length_littleEndian 2 _),
    ofLittleEndian_littleEndian, Nat.mod_eq_of_lt hlt]

/-- The last four bytes of a footer are its magic. -/
theorem drop_append_footer_eq_iff (body : Bytes) (footer : Footer) :
    (body ++ footer.write).drop ((body ++ footer.write).length - 4) = [0x69, 0xA2, 0xB2, 0x3B] ↔
      footer.magic = regionMagic := by
  have hcut : body ++ footer.write = (body ++ (littleEndian 2 footer.size.toNat
      ++ littleEndian 2 footer.pad16.toNat)) ++ littleEndian 4 footer.magic.toNat := by
    simp only [Footer.write, List.append_assoc]
  have hmagic : ([0x69, 0xA2, 0xB2, 0x3B] : Bytes) = littleEndian 4 regionMagic.toNat := by decide
  rw [hcut, List.drop_left' (by simp), hmagic]
  constructor
  · intro h
    rw [← ofNat_ofLittleEndian_32 footer.magic, h, ofNat_ofLittleEndian_32]
  · intro h
    rw [h]

/-! ## The whole string -/

/-- Decoding fails for want of a region exactly where the magic is missing. -/
theorem decode_eq_noRegion_iff :
    decode data = .error .noRegion ↔
      data.length < footerLength ∨ data.drop (data.length - 4) ≠ [0x69, 0xA2, 0xB2, 0x3B] := by
  by_cases hshort : data.length < footerLength
  · simp [decode, hshort]
  obtain ⟨body, footer, rfl⟩ := exists_footer (Nat.le_of_not_lt hshort)
  simp only [decode_append_write_footer, ne_eq, drop_append_footer_eq_iff]
  by_cases hmagic : footer.magic = regionMagic
  · simp only [hmagic, not_true_eq_false, if_false, Except.mapError_eq_error_iff, or_false, hshort,
      iff_false, not_exists, not_and, reduceCtorEq, not_false_eq_true, implies_true]
  · simp only [hmagic, not_false_eq_true, if_true, or_true]

/-- A string whose last bytes are a footer with the magic and a length in range: the bytes in front of
the region, its header, the bytes between the header and the footer, and the footer. -/
structure Framed where
  front : Bytes
  header : Header
  inner : Bytes
  footer : Footer
  magic_eq : footer.magic = regionMagic
  size_eq : footer.size.toNat = 12 + inner.length
  least_le : leastRegionLength ≤ footer.size.toNat

namespace Framed

/-- The string. -/
def bytes (f : Framed) : Bytes := f.front ++ (f.header.write ++ (f.inner ++ f.footer.write))

/-- With the magic there, a length in range frames the region. -/
theorem exists_bytes_eq (hlength : footerLength ≤ data.length)
    (hmagic : data.drop (data.length - 4) = [0x69, 0xA2, 0xB2, 0x3B])
    (hleast : leastRegionLength ≤ footerSize data) (hfit : footerSize data ≤ data.length) :
    ∃ f : Framed, data = f.bytes := by
  obtain ⟨body, footer, rfl⟩ := exists_footer hlength
  rw [drop_append_footer_eq_iff] at hmagic
  rw [footerSize_append] at hleast hfit
  have hend : (body ++ footer.write).drop ((body ++ footer.write).length - footerLength)
      = footer.write := List.drop_left' (by simp [footerLength])
  obtain ⟨front, header, inner, hdata, hsize⟩ := exists_cut hend hleast hfit
  exact ⟨⟨front, header, inner, footer, hmagic, hsize, hleast⟩, hdata⟩

variable (f : Framed)

theorem bytes_eq_append_footer :
    f.bytes = (f.front ++ (f.header.write ++ f.inner)) ++ f.footer.write := by
  simp only [bytes, List.append_assoc]

theorem bytes_eq_append_inner :
    f.bytes = (f.front ++ f.header.write) ++ f.inner ++ f.footer.write := by
  simp only [bytes, List.append_assoc]

theorem footerSize_bytes : footerSize f.bytes = 12 + f.inner.length := by
  rw [bytes_eq_append_footer, footerSize_append, f.size_eq]

theorem length_bytes : f.bytes.length = f.front.length + (12 + f.inner.length) := by
  simp only [bytes, List.length_append, Header.length_write, Footer.length_write]
  omega

/-- Where the region starts, its version stands. -/
theorem getElem?_bytes : f.bytes[f.front.length]? = some f.header.version := by
  rw [bytes, List.getElem?_append_right (Nat.le_refl _), Nat.sub_self]
  rfl

theorem length_front : (f.front ++ f.header.write).length = f.front.length + headerLength := by
  rw [List.length_append, Header.length_write, headerLength]

/-- The bytes between the header and the footer. -/
theorem slice_bytes : f.bytes.slice (f.front.length + headerLength) f.inner.length = f.inner := by
  rw [bytes_eq_append_inner]
  exact Bytes.slice_append f.length_front rfl

/-- The walk along the records, from the header to the footer. -/
def walk : Except Defect Records :=
  recordsFrom (f.front.length + headerLength) f.inner.length (f.inner ++ f.footer.write)

/-- The walk fails as the first record does that breaks a rule. -/
theorem walk_eq_error_iff :
    f.walk = .error defect ↔
      FirstDefect f.bytes (f.front.length + headerLength + f.inner.length)
        (f.front.length + headerLength) false defect := by
  have hdrop : f.bytes.drop (f.front.length + headerLength) = f.inner ++ f.footer.write := by
    rw [bytes_eq_append_inner, List.append_assoc, List.drop_left' f.length_front]
  have hstop : f.front.length + headerLength + f.inner.length < f.bytes.length := by
    rw [f.length_bytes, headerLength]
    omega
  rw [← recordsFrom_drop_eq_error_iff (Nat.le_add_right _ _) hstop, hdrop, Nat.add_sub_cancel_left]
  rfl

/-- The walk misses the hash exactly where nothing but area records stands between the header and the
footer. -/
theorem walk_eq_missingHash_iff :
    f.walk = .error .missingHash ↔
      ∃ areas : List AreaRecord, (∀ a ∈ areas, a.header = AreaRecord.standardHeader) ∧
        f.inner = areas.flatMap AreaRecord.write := by
  rw [walk, recordsFrom_eq_missingHash_iff]
  constructor
  · rintro ⟨areas, hareas, hroom, behind, hbytes⟩
    refine ⟨areas, hareas, (List.append_inj hbytes ?_).1⟩
    rw [hroom, AreaRecord.length_flatMap_write]
  · rintro ⟨areas, hareas, hinner⟩
    exact ⟨areas, hareas, by rw [hinner, AreaRecord.length_flatMap_write], f.footer.write, by rw [hinner]⟩

/-- Decoding fails at the version, or else as the walk along the records does. -/
theorem decode_bytes_eq_error_iff {e : RegionError} :
    decode f.bytes = .error e ↔
      (f.header.version ≠ layoutVersion ∧ e = .malformed .unsupportedVersion) ∨
        (f.header.version = layoutVersion ∧ ∃ defect, e = .malformed defect ∧
          f.walk = .error defect) := by
  have hread := ofFooter_append f.front f.header f.least_le f.size_eq
  rw [← bytes, ← walk] at hread
  rw [bytes_eq_append_footer, decode_append_footer _ f.magic_eq, ← bytes_eq_append_footer, hread]
  by_cases hversion : f.header.version = layoutVersion
  · rw [if_neg (not_not_intro hversion)]
    cases f.walk with
    | error defect => simp [Except.error_mapError, hversion, eq_comm]
    | ok records => simp [Except.ok_mapError, hversion]
  · simp [hversion, Except.error_mapError, eq_comm]

theorem decode_bytes_eq_unsupportedVersion_iff :
    decode f.bytes = .error (.malformed .unsupportedVersion) ↔ f.header.version ≠ layoutVersion := by
  rw [f.decode_bytes_eq_error_iff]
  constructor
  · rintro (⟨hversion, -⟩ | ⟨-, _, ⟨⟩, hwalk⟩)
    · exact hversion
    · have hmem := (f.walk_eq_error_iff.1 hwalk).mem
      simp at hmem
  · intro hversion
    exact .inl ⟨hversion, rfl⟩

/-- What can be wrong past the magic and the length. -/
theorem mem_of_decode_bytes (h : decode f.bytes = .error (.malformed defect)) :
    defect ∈ [Defect.unsupportedVersion, .overrunsFooter, .unknownCode, .badAreaLength,
      .badHashLength, .areaAfterHash, .duplicateHash, .missingHash] := by
  rcases f.decode_bytes_eq_error_iff.1 h with ⟨-, ⟨⟩⟩ | ⟨-, _, ⟨⟩, hwalk⟩
  · exact List.mem_cons_self
  · exact List.mem_cons_of_mem _ (f.walk_eq_error_iff.1 hwalk).mem

/-- Past the version decoding fails as the walk along the records does. -/
theorem decode_bytes_eq_malformed_iff (hversion : f.header.version = layoutVersion) :
    decode f.bytes = .error (.malformed defect) ↔ f.walk = .error defect := by
  simp [f.decode_bytes_eq_error_iff, hversion]

end Framed

/-- With the magic there, the length is the first thing to be wrong. -/
theorem decode_eq_badLength_iff (hlength : footerLength ≤ data.length)
    (hmagic : data.drop (data.length - 4) = [0x69, 0xA2, 0xB2, 0x3B]) :
    decode data = .error (.malformed .badLength) ↔
      footerSize data < leastRegionLength ∨ data.length < footerSize data := by
  by_cases hrange : footerSize data < leastRegionLength ∨ data.length < footerSize data
  · refine iff_of_true ?_ hrange
    obtain ⟨body, footer, rfl⟩ := exists_footer hlength
    rw [drop_append_footer_eq_iff] at hmagic
    rw [footerSize_append] at hrange
    rw [decode_append_footer _ hmagic, ofFooter, if_pos hrange]
    rfl
  · refine iff_of_false ?_ hrange
    obtain ⟨f, rfl⟩ := Framed.exists_bytes_eq hlength hmagic (by omega) (by omega)
    intro h
    simpa using f.mem_of_decode_bytes h

/-- Nothing is ever read that is not there. -/
theorem decode_ne_truncated (data : Bytes) : decode data ≠ .error (.malformed .truncated) := by
  by_cases hnone : data.length < footerLength ∨
      data.drop (data.length - 4) ≠ [0x69, 0xA2, 0xB2, 0x3B]
  · simp [decode_eq_noRegion_iff.2 hnone]
  obtain ⟨hlength, hmagic⟩ := not_or.1 hnone
  replace hlength := Nat.le_of_not_lt hlength
  replace hmagic := Decidable.of_not_not hmagic
  by_cases hrange : footerSize data < leastRegionLength ∨ data.length < footerSize data
  · simp [(decode_eq_badLength_iff hlength hmagic).2 hrange]
  obtain ⟨f, rfl⟩ := Framed.exists_bytes_eq hlength hmagic (by omega) (by omega)
  intro h
  simpa using f.mem_of_decode_bytes h

/-! ## How decoding fails -/

/-- Decoding always ends, and no byte is read that is not there: the records of a run that breaks no rule
end in front of the footer, so the header at every position that it reaches lies in the string.  It
fails for want of a region exactly where the magic is missing; else with the length exactly where that
is out of range; else with the version exactly where that is another one; else exactly as the first
record does, by address, that breaks a rule, and for want of a hash exactly where all that stands
between header and footer is area records. -/
theorem decode_error_precise (data : Bytes) :
    decode data ≠ .error (.malformed .truncated) ∧
    (decode data = .error .noRegion ↔
      data.length < 8 ∨ data.drop (data.length - 4) ≠ [0x69, 0xA2, 0xB2, 0x3B]) ∧
    (8 ≤ data.length → data.drop (data.length - 4) = [0x69, 0xA2, 0xB2, 0x3B] →
      (decode data = .error (.malformed .badLength) ↔
        footerSize data < 46 ∨ data.length < footerSize data) ∧
      ∀ start, 46 ≤ footerSize data → start + footerSize data = data.length →
        (decode data = .error (.malformed .unsupportedVersion) ↔ data[start]? ≠ some 1) ∧
        (data[start]? = some 1 →
          ∃ stop, stop + 8 = data.length ∧
            (∀ pos hashed, SoundRun data stop (start + 4) false pos hashed →
              pos ≤ stop ∧
                (pos < stop → pos + 2 ≤ data.length ∧ ∃ h, headerAt? data pos = some h)) ∧
            (∀ e, decode data = .error e ↔
              ∃ defect, e = .malformed defect ∧ FirstDefect data stop (start + 4) false defect) ∧
            (decode data = .error (.malformed .missingHash) ↔
              ∃ areas : List AreaRecord, (∀ a ∈ areas, a.header = ⟨2, 12⟩) ∧
                data.slice (start + 4) (stop - (start + 4)) = areas.flatMap AreaRecord.write))) ∧
    [Defect.truncated, .badLength, .unsupportedVersion, .missingHash].map Defect.message =
      ["truncated region", "bad region size", "unsupported version", "missing hash TLV"] := by
  refine ⟨decode_ne_truncated data, decode_eq_noRegion_iff, ?_, rfl⟩
  intro hlength hmagic
  refine ⟨decode_eq_badLength_iff hlength hmagic, ?_⟩
  intro start hleast hstart
  obtain ⟨f, rfl⟩ := Framed.exists_bytes_eq hlength hmagic hleast (by omega)
  obtain rfl : start = f.front.length := by
    rw [f.footerSize_bytes, f.length_bytes] at hstart
    omega
  have hversion : f.bytes[f.front.length]? = some 1 ↔ f.header.version = layoutVersion := by
    rw [f.getElem?_bytes, Option.some.injEq]
    rfl
  refine ⟨f.decode_bytes_eq_unsupportedVersion_iff.trans (not_congr hversion).symm, ?_⟩
  intro hv
  replace hversion := hversion.1 hv
  have hstop : f.front.length + headerLength + f.inner.length + 8 = f.bytes.length := by
    rw [f.length_bytes, headerLength]
    omega
  refine ⟨f.front.length + headerLength + f.inner.length, hstop, ?_, ?_, ?_⟩
  · intro pos hashed hrun
    refine ⟨hrun.le (Nat.le_add_right _ _), fun hin => ?_⟩
    have hle : pos + recordHeaderLength ≤ f.bytes.length := by
      rw [recordHeaderLength]
      omega
    exact ⟨hle, exists_headerAt? hle⟩
  · intro e
    rw [f.decode_bytes_eq_error_iff]
    simp only [hversion, ne_eq, not_true_eq_false, false_and, false_or, true_and,
      f.walk_eq_error_iff]
    rfl
  · rw [f.decode_bytes_eq_malformed_iff hversion, f.walk_eq_missingHash_iff,
      show f.front.length + headerLength + f.inner.length - (f.front.length + 4) = f.inner.length by
        rw [headerLength]; omega]
    have hslice : f.bytes.slice (f.front.length + 4) f.inner.length = f.inner := f.slice_bytes
    rw [hslice]
    rfl

/-- The areas end one byte in front of the footer, so that the header behind them is half the
footer's. -/
def straddled : Bytes :=
  let area : AreaRecord := ⟨⟨2, 12⟩, 7, 1, 0xFFFF, 0x8000, 0x1000⟩
  Header.current.write ++ [area, area, area].flatMap AreaRecord.write ++ [0x02]
    ++ Footer.write ⟨55, 0xFFFF, 0x3BB2A269⟩

theorem decode_error_precise_straddled :
    footerSize straddled = 55 ∧ headerAt? straddled 46 = some ⟨0x02, 55⟩ ∧
      decode straddled = .error (.malformed .overrunsFooter) := by
  obtain ⟨-, -, hframed, -⟩ := decode_error_precise straddled
  obtain ⟨-, hframed⟩ := hframed (by decide) (by decide)
  obtain ⟨stop, hstop, -, hwalk, -⟩ := (hframed 0 (by decide) (by decide)).2 (by decide)
  obtain rfl : stop = 47 := Nat.add_right_cancel (hstop.trans (by decide : straddled.length = 47 + 8))
  have hareas : SoundRun straddled 47 4 false 46 false :=
    .cons (by decide) (h := ⟨2, 12⟩) (by decide) (by decide) <|
      .cons (by decide) (h := ⟨2, 12⟩) (by decide) (by decide) <|
        .cons (by decide) (h := ⟨2, 12⟩) (by decide) (by decide) <| .nil 46 false
  have hheader : headerAt? straddled 46 = some ⟨0x02, 55⟩ := by decide
  exact ⟨by decide, hheader, (hwalk _).2
    ⟨.overrunsFooter, rfl, .broken hareas (by decide) hheader (by decide)⟩⟩

end Region

end FlashSeal
