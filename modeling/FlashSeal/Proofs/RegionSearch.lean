/-
FlashSeal.Proofs.RegionSearch — what is known of a region that was found in an image.

With a map the region is the one that ends where the boot loader area ends (`read_eq_ok_iff`).
Without one it is the region of the longest front part of the image that ends in a region, and a
failure means that no front part does (`find_eq_ok_iff`, `find_eq_error_iff`).  The search looks
at far fewer ends than there are.  It may: a region ends in the magic and is not shorter than the
least length, so an end that is passed over ends no region (`mem_candidates_of_decode`).

Either way the region was decoded from a front part of the image, so its bytes and its digest stand
in the image at the offsets that it names (`slice_offset_of_decode_take`,
`slice_hashOffset_of_decode_take`).
-/
import FlashSeal.Proofs.Outcome
import FlashSeal.Proofs.RegionGrammar
import FlashSeal.Region.Search

namespace FlashSeal

namespace Region

variable {image : Bytes} {m : FlashMap} {r : Region} {stop : Nat}

/-! ## With a map -/

/-- What reading does once the boot loader area is known. -/
theorem read_of_bootLoader {boot : Area} (hboot : m.bootLoader? = some boot) :
    read image m =
      if image.length < boot.stop then .error (.areaOutsideImage boot.stop image.length)
      else
        match decode (image.take boot.stop) with
        | .error e => .error e
        | .ok r =>
          if r.offset < boot.offset.toNat then .error (.malformed .outsideBootLoader)
          else .ok r := by
  rw [read, FlashMap.bootLoader, hboot]
  simp only [bind, Except.bind, Area.stopWithin]
  by_cases hstop : image.length < boot.stop
  · simp only [if_pos hstop]
  simp only [if_neg hstop]
  cases decode (image.take boot.stop) with
  | error e => rfl
  | ok r =>
    by_cases hin : r.offset < boot.offset.toNat
    · simp only [if_pos hin]
      rfl
    · simp only [if_neg hin]
      rfl

/-- With a boot loader area reading succeeds exactly when the image reaches the area's end, a region
ends there and it begins in the area. -/
theorem read_eq_ok_iff_of_bootLoader {boot : Area} (hboot : m.bootLoader? = some boot) :
    read image m = .ok r ↔
      boot.stop ≤ image.length ∧ decode (image.take boot.stop) = .ok r ∧
        boot.offset.toNat ≤ r.offset := by
  rw [read_of_bootLoader hboot]
  constructor
  · intro h
    split at h
    · cases h
    next hstop =>
    split at h
    · cases h
    next found hfound =>
    split at h
    · cases h
    next hin =>
    obtain rfl := Except.ok.inj h
    exact ⟨Nat.not_lt.1 hstop, hfound, Nat.not_lt.1 hin⟩
  · rintro ⟨hstop, hr, hin⟩
    rw [if_neg (Nat.not_lt.2 hstop), hr]
    exact if_neg (Nat.not_lt.2 hin)

theorem read_of_no_bootLoader (hboot : m.bootLoader? = none) :
    read image m = .error (.missingArea Area.bootLoaderName) := by
  rw [read, FlashMap.bootLoader, hboot]
  rfl

theorem read_eq_ok_iff :
    read image m = .ok r ↔
      ∃ boot, m.bootLoader? = some boot ∧ boot.stop ≤ image.length ∧
        decode (image.take boot.stop) = .ok r ∧ boot.offset.toNat ≤ r.offset := by
  cases hboot : m.bootLoader? with
  | none => simp [read_of_no_bootLoader hboot]
  | some boot => simp [read_eq_ok_iff_of_bootLoader hboot]

/-! ## Where the magic stands -/

theorem length_magicBytes : magicBytes.length = 4 := length_littleEndian 4 _

/-- The magic stands at the front of a string, or further on. -/
theorem exists_magic_cons_iff {position : Nat} {b : UInt8} {bs : Bytes} :
    (∃ front back : Bytes, b :: bs = front ++ magicBytes ++ back ∧
        stop = position + front.length + magicBytes.length) ↔
      (magicBytes <+: b :: bs ∧ stop = position + magicBytes.length) ∨
        ∃ front back : Bytes, bs = front ++ magicBytes ++ back ∧
          stop = position + 1 + front.length + magicBytes.length := by
  constructor
  · rintro ⟨front, back, hbs, hstop⟩
    cases front with
    | nil => exact .inl ⟨⟨back, hbs.symm⟩, by simpa using hstop⟩
    | cons f front =>
      rw [List.length_cons] at hstop
      exact .inr ⟨front, back, (List.cons.inj hbs).2, by omega⟩
  · rintro (⟨⟨back, hback⟩, hstop⟩ | ⟨front, back, hbs, hstop⟩)
    · exact ⟨[], back, hback.symm, by simpa using hstop⟩
    · refine ⟨b :: front, back, by rw [hbs]; rfl, ?_⟩
      rw [List.length_cons]
      omega

/-- The magic is looked for at every place. -/
theorem mem_magicStops_iff {position : Nat} {bs : Bytes} :
    stop ∈ magicStops position bs ↔
      ∃ front back : Bytes, bs = front ++ magicBytes ++ back ∧
        stop = position + front.length + magicBytes.length := by
  induction bs generalizing position with
  | nil => simp [magicStops, magicBytes, littleEndian]
  | cons b bs ih =>
    rw [exists_magic_cons_iff, magicStops]
    by_cases hhere : magicBytes <+: b :: bs
    · rw [if_pos (List.isPrefixOf_iff_prefix.2 hhere), List.mem_cons, ih]
      simp [hhere]
    · rw [if_neg (fun h => hhere (List.isPrefixOf_iff_prefix.1 h)), ih]
      simp [hhere]

theorem pairwise_magicStops (position : Nat) (bs : Bytes) :
    (magicStops position bs).Pairwise (· < ·) := by
  induction bs generalizing position with
  | nil => exact List.Pairwise.nil
  | cons b bs ih =>
    rw [magicStops]
    split
    · refine List.pairwise_cons.2 ⟨?_, ih (position + 1)⟩
      intro later hlater
      obtain ⟨front, back, -, rfl⟩ := mem_magicStops_iff.1 hlater
      omega
    · exact ih (position + 1)

/-! ## Candidates -/

/-- A candidate is an end of the magic that leaves room for a region. -/
theorem mem_candidates_iff :
    stop ∈ candidates image ↔
      leastRegionLength ≤ stop ∧ ∃ front back : Bytes,
        image = front ++ magicBytes ++ back ∧ stop = front.length + magicBytes.length := by
  simp only [candidates, List.mem_reverse, List.mem_filter, mem_magicStops_iff, Nat.zero_add,
    decide_eq_true_eq]
  exact And.comm

theorem pairwise_candidates (image : Bytes) : (candidates image).Pairwise (· > ·) := by
  rw [candidates, List.pairwise_reverse]
  exact (pairwise_magicStops 0 image).filter _

theorem le_length_of_mem_candidates (h : stop ∈ candidates image) : stop ≤ image.length := by
  obtain ⟨-, front, back, rfl, rfl⟩ := mem_candidates_iff.1 h
  simp only [List.length_append]
  omega

/-- The bytes of a region in front of the magic. -/
def beforeMagic (r : Region) : Bytes :=
  r.header.write ++ (r.records ++ (littleEndian 2 r.footer.size.toNat
    ++ littleEndian 2 r.footer.pad16.toNat))

theorem Lawful.write_eq_beforeMagic (hr : r.Lawful) : r.write = r.beforeMagic ++ magicBytes := by
  simp only [write_eq, beforeMagic, Footer.write, magicBytes, hr.magic_eq, List.append_assoc]

/-- Every front part of the image that ends in a region is among the candidates. -/
theorem mem_candidates_of_decode (hle : stop ≤ image.length)
    (h : decode (image.take stop) = .ok r) : stop ∈ candidates image := by
  obtain ⟨hr, front, -, htake⟩ := decode_eq_ok_iff.1 h
  have hstop : stop = front.length + r.write.length := by
    rw [← List.length_append, ← htake, List.length_take, Nat.min_eq_left hle]
  refine mem_candidates_iff.2 ⟨?_, front ++ r.beforeMagic, image.drop stop, ?_, ?_⟩
  · rw [hstop, length_write, show leastRegionLength = 46 from rfl]
    omega
  · rw [List.append_assoc front, ← hr.write_eq_beforeMagic, ← htake, List.take_append_drop]
  · rw [hstop, hr.write_eq_beforeMagic, List.length_append, List.length_append]
    omega

/-- What ends in a region ends in the last byte of the magic. -/
theorem getLast?_of_decode {bs : Bytes} (h : decode bs = .ok r) : bs.getLast? = some 0x3B := by
  obtain ⟨hr, front, -, rfl⟩ := decode_eq_ok_iff.1 h
  have hmagic : magicBytes = [0x69, 0xA2, 0xB2] ++ [0x3B] := by decide
  rw [hr.write_eq_beforeMagic, hmagic, ← List.append_assoc, ← List.append_assoc,
    List.getLast?_concat]

/-! ## Without a map -/

/-- No region ends these bytes. -/
def Unreadable (bs : Bytes) : Prop := ∃ e, decode bs = .error e

theorem unreadable_iff {bs : Bytes} : Unreadable bs ↔ ∀ r, decode bs ≠ .ok r := by
  cases h : decode bs <;> simp [Unreadable, h]

/-- Of descending ends the first that ends a region is the last of all that do. -/
theorem findAmong_eq_ok_iff {stops : List Nat} (hdesc : stops.Pairwise (· > ·)) :
    findAmong image stops = .ok r ↔
      ∃ stop ∈ stops, decode (image.take stop) = .ok r ∧
        ∀ later ∈ stops, stop < later → Unreadable (image.take later) := by
  induction stops with
  | nil => simp [findAmong]
  | cons stop stops ih =>
    obtain ⟨hhead, htail⟩ := List.pairwise_cons.1 hdesc
    rw [findAmong]
    -- `stop` exceeds every end behind it: if it ends a region, no end behind it counts.
    cases hd : decode (image.take stop) with
    | ok found =>
      constructor
      · intro h
        obtain rfl := Except.ok.inj h
        refine ⟨stop, List.mem_cons_self, hd, ?_⟩
        intro later hlater hlt
        rcases List.mem_cons.1 hlater with rfl | hmem
        · exact absurd hlt (Nat.lt_irrefl _)
        · exact absurd (hhead later hmem) (Nat.lt_asymm hlt)
      · rintro ⟨other, hmem, hother, hlater⟩
        rcases List.mem_cons.1 hmem with rfl | hmem
        · rw [← hd, hother]
        · exact absurd hd
            (unreadable_iff.1 (hlater stop List.mem_cons_self (hhead other hmem)) found)
    | error e =>
      simp only
      rw [ih htail]
      constructor
      · rintro ⟨other, hmem, hother, hlater⟩
        refine ⟨other, List.mem_cons_of_mem stop hmem, hother, ?_⟩
        intro later hmem hlt
        rcases List.mem_cons.1 hmem with rfl | hmem
        · exact ⟨e, hd⟩
        · exact hlater later hmem hlt
      · rintro ⟨other, hmem, hother, hlater⟩
        rcases List.mem_cons.1 hmem with rfl | hmem
        · rw [hd] at hother
          cases hother
        · exact ⟨other, hmem, hother, fun later h => hlater later (List.mem_cons_of_mem stop h)⟩

/-- A search that fails has found no end that ends a region, and says no more. -/
theorem findAmong_eq_error_iff {stops : List Nat} {e : RegionError} :
    findAmong image stops = .error e ↔
      e = .noRegion ∧ ∀ stop ∈ stops, Unreadable (image.take stop) := by
  induction stops with
  | nil => simp [findAmong, eq_comm]
  | cons stop stops ih =>
    rw [findAmong]
    cases hd : decode (image.take stop) with
    | ok found => simp [Unreadable, hd]
    | error e' => simp [ih, Unreadable, hd]

/-- The search gives the region of the longest front part of the image that ends in one. -/
theorem find_eq_ok_iff :
    find image = .ok r ↔
      ∃ stop ≤ image.length, decode (image.take stop) = .ok r ∧
        ∀ later, stop < later → later ≤ image.length → Unreadable (image.take later) := by
  rw [find, findAmong_eq_ok_iff (pairwise_candidates image)]
  constructor
  · rintro ⟨stop, hmem, hr, hlater⟩
    refine ⟨stop, le_length_of_mem_candidates hmem, hr, ?_⟩
    intro later hlt hle
    refine unreadable_iff.2 fun other hother => ?_
    exact unreadable_iff.1 (hlater later (mem_candidates_of_decode hle hother) hlt) other hother
  · rintro ⟨stop, hle, hr, hlater⟩
    refine ⟨stop, mem_candidates_of_decode hle hr, hr, ?_⟩
    intro later hmem hlt
    exact hlater later hlt (le_length_of_mem_candidates hmem)

theorem find_eq_error_iff {e : RegionError} :
    find image = .error e ↔
      e = .noRegion ∧ ∀ stop ≤ image.length, Unreadable (image.take stop) := by
  rw [find, findAmong_eq_error_iff, and_congr_right_iff]
  rintro -
  constructor
  · intro h stop hle
    refine unreadable_iff.2 fun r hr => ?_
    exact unreadable_iff.1 (h stop (mem_candidates_of_decode hle hr)) r hr
  · intro h stop hmem
    exact h stop (le_length_of_mem_candidates hmem)

/-! ## Where a decoded region stands -/

/-- The region of a front part of the image ends where that part ends. -/
theorem stop_eq_of_decode_take (hle : stop ≤ image.length)
    (h : decode (image.take stop) = .ok r) : r.stop = stop := by
  obtain ⟨hr, front, hf, htake⟩ := decode_eq_ok_iff.1 h
  have hlength := congrArg List.length htake
  rw [List.length_append, length_write, List.length_take, Nat.min_eq_left hle] at hlength
  rw [Region.stop, hr.length_eq, ← hf, hlength]

/-- The bytes of a region that was decoded stand in the image where the region says. -/
theorem slice_offset_of_decode_take (h : decode (image.take stop) = .ok r) :
    image.slice r.offset r.length = r.write := by
  obtain ⟨hr, front, hf, htake⟩ := decode_eq_ok_iff.1 h
  rw [← List.take_append_drop stop image, htake]
  exact Bytes.slice_append hf (by rw [length_write, hr.length_eq])

/-- The digest of a region that was decoded stands in the image where the region says. -/
theorem slice_hashOffset_of_decode_take (h : decode (image.take stop) = .ok r) :
    image.slice r.hashOffset digestLength = r.hash.bytes := by
  obtain ⟨hr, front, hf, htake⟩ := decode_eq_ok_iff.1 h
  rw [← List.take_append_drop stop image, htake]
  exact slice_hashOffset hr hf

/-- The digest's window lies in the image. -/
theorem hashOffset_le_of_decode_take (h : decode (image.take stop) = .ok r) :
    r.hashOffset + digestLength ≤ image.length := by
  refine Bytes.le_length_of_length_slice (by decide) ?_
  rw [slice_hashOffset_of_decode_take h, r.hash.length_bytes]

/-! ## How reading fails -/

/-- Decoding fails for want of a region or for a defect of one. -/
theorem exists_of_decode_eq_error {bs : Bytes} {e : RegionError} (h : decode bs = .error e) :
    e = .noRegion ∨ ∃ defect, e = .malformed defect := by
  unfold decode at h
  split at h
  · exact .inl (Except.error.inj h).symm
  split at h
  · exact .inr ⟨_, (Except.error.inj h).symm⟩
  split at h
  · exact .inl (Except.error.inj h).symm
  · obtain ⟨defect, -, hdefect⟩ := Except.mapError_eq_error_iff.1 h
    exact .inr ⟨defect, hdefect.symm⟩

/-- Reading fails without a boot loader area, with one that ends behind the image, and as decoding
does. -/
theorem exists_of_read_eq_error {e : RegionError} (h : read image m = .error e) :
    (m.bootLoader? = none ∧ e = .missingArea Area.bootLoaderName) ∨
      (∃ boot, m.bootLoader? = some boot ∧ image.length < boot.stop ∧
        e = .areaOutsideImage boot.stop image.length) ∨
      e = .noRegion ∨ ∃ defect, e = .malformed defect := by
  cases hboot : m.bootLoader? with
  | none =>
    rw [read_of_no_bootLoader hboot] at h
    exact .inl ⟨rfl, (Except.error.inj h).symm⟩
  | some boot =>
    rw [read_of_bootLoader hboot] at h
    split at h
    · next hshort => exact .inr (.inl ⟨boot, rfl, hshort, (Except.error.inj h).symm⟩)
    refine .inr (.inr ?_)
    split at h
    · next e' hdecode =>
      obtain rfl := Except.error.inj h
      exact exists_of_decode_eq_error hdecode
    · split at h
      · exact .inr ⟨_, (Except.error.inj h).symm⟩
      · cases h

theorem read_ne_hashOutOfRange (image : Bytes) (m : FlashMap) (offset length : Nat) :
    read image m ≠ .error (.hashOutOfRange offset length) := by
  intro h
  have := exists_of_read_eq_error h
  simp at this

end Region

end FlashSeal
