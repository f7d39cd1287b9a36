/-
FlashSeal.Proofs.RecordRuns — the records in front of a footer, by position, and where the walk fails.

A region's records are found by lengths that stand in the bytes themselves.  Here they are told by
positions in the whole string, the footer included: `headerAt?` is the code and the length that stand
at a position, `recordFault?` is the first rule that such a record breaks, and `SoundRun` says that
records which break none stand one behind another between two positions.

A sound run never passes the footer's start (`SoundRun.le`), and the footer is longer than a record's
header.  So the two bytes at every position that a run reaches lie in the string, even where the second
of them is the footer's (`exists_headerAt?`), and the walk, which has the footer in sight, reads there
what stands there (`cutHeader_drop`).  It fails as the first record does that breaks a rule
(`recordsFrom_drop_eq_error_iff`), and for want of a hash in front of which only areas stand
(`recordsFrom_eq_missingHash_iff`).
-/
import FlashSeal.Proofs.RegionGrammar

namespace FlashSeal

namespace Region

/-! ## Records by position -/

/-- The code and the length that stand at a position. -/
def headerAt? (data : Bytes) (pos : Nat) : Option RecordHeader :=
  RecordHeader.read? (data.slice pos recordHeaderLength)

/-- The first rule that a record at `pos` breaks, where `stop` is the footer's start and `hashed`
tells whether a hash record stands in front of it. -/
def recordFault? (stop pos : Nat) (hashed : Bool) (h : RecordHeader) : Option Defect :=
  if stop < pos + recordHeaderLength + h.size.toNat then some .overrunsFooter
  else if h.code ≠ areaCode ∧ h.code ≠ hashCode then some .unknownCode
  else if h.code = areaCode ∧ h.size.toNat ≠ areaPayloadLength then some .badAreaLength
  else if h.code = hashCode ∧ h.size.toNat ≠ hashPayloadLength then some .badHashLength
  else if hashed then some (if h.code = areaCode then .areaAfterHash else .duplicateHash)
  else none

/-- Records that break no rule stand one behind another from the first position to the second.  The
flag beside a position tells whether a hash record stands in front of it. -/
inductive SoundRun (data : Bytes) (stop : Nat) : Nat → Bool → Nat → Bool → Prop
  | nil (pos : Nat) (hashed : Bool) : SoundRun data stop pos hashed pos hashed
  | cons {pos last : Nat} {hashed lastHashed : Bool} {h : RecordHeader} (hin : pos < stop)
      (hheader : headerAt? data pos = some h) (hsound : recordFault? stop pos hashed h = none)
      (hrest : SoundRun data stop (pos + recordHeaderLength + h.size.toNat)
        (hashed || h.code == hashCode) last lastHashed) :
      SoundRun data stop pos hashed last lastHashed

/-- The first thing wrong with the records from a position on: one of them breaks a rule and none in
front of it does, or none does and there is no hash among them. -/
inductive FirstDefect (data : Bytes) (stop pos : Nat) (hashed : Bool) : Defect → Prop
  | broken {last : Nat} {lastHashed : Bool} {h : RecordHeader} {defect : Defect}
      (hrun : SoundRun data stop pos hashed last lastHashed) (hin : last < stop)
      (hheader : headerAt? data last = some h)
      (hfault : recordFault? stop last lastHashed h = some defect) :
      FirstDefect data stop pos hashed defect
  | unhashed (hrun : SoundRun data stop pos hashed stop false) :
      FirstDefect data stop pos hashed .missingHash

variable {data : Bytes} {stop pos last position room : Nat} {hashed lastHashed : Bool}
  {h : RecordHeader} {defect other : Defect}

/-! ## One record -/

theorem recordFault?_of_long (hlong : stop < pos + recordHeaderLength + h.size.toNat) :
    recordFault? stop pos hashed h = some .overrunsFooter := by
  rw [recordFault?, if_pos hlong]

/-- Of a record that fits, the code decides which rules are left. -/
theorem recordFault?_of_fit (hfit : pos + recordHeaderLength + h.size.toNat ≤ stop) :
    recordFault? stop pos hashed h =
      if h.code = areaCode then
        if h.size.toNat ≠ areaPayloadLength then some .badAreaLength
        else if hashed then some .areaAfterHash else none
      else if h.code = hashCode then
        if h.size.toNat ≠ hashPayloadLength then some .badHashLength
        else if hashed then some .duplicateHash else none
      else some .unknownCode := by
  have hcodes : areaCode ≠ hashCode := by decide
  rw [recordFault?, if_neg (Nat.not_lt.2 hfit)]
  by_cases harea : h.code = areaCode
  · simp [harea, hcodes]
  · by_cases hhash : h.code = hashCode
    · simp [hhash, hcodes.symm]
    · simp [harea, hhash]

theorem recordFault?_eq_none_iff :
    recordFault? stop pos hashed h = none ↔
      pos + recordHeaderLength + h.size.toNat ≤ stop ∧ hashed = false ∧
        (h = AreaRecord.standardHeader ∨ h = HashRecord.standardHeader) := by
  by_cases hfit : pos + recordHeaderLength + h.size.toNat ≤ stop
  · rw [recordFault?_of_fit hfit, and_iff_right hfit]
    constructor
    · intro hnone
      split at hnone
      · next harea =>
        split at hnone
        · cases hnone
        next hsize =>
        split at hnone
        · cases hnone
        next hhashed =>
        exact ⟨Bool.eq_false_iff.2 hhashed,
          .inl (RecordHeader.eq_mk (by decide) harea (Decidable.of_not_not hsize))⟩
      split at hnone
      · next hhash =>
        split at hnone
        · cases hnone
        next hsize =>
        split at hnone
        · cases hnone
        next hhashed =>
        exact ⟨Bool.eq_false_iff.2 hhashed,
          .inr (RecordHeader.eq_mk (by decide) hhash (Decidable.of_not_not hsize))⟩
      · cases hnone
    · rintro ⟨rfl, rfl | rfl⟩ <;> rfl
  · rw [recordFault?_of_long (Nat.lt_of_not_le hfit)]
    simp [hfit]

/-- Two bytes are always a header. -/
theorem exists_headerAt? (h : pos + recordHeaderLength ≤ data.length) :
    ∃ header, headerAt? data pos = some header := by
  have hlength := Bytes.length_slice h
  rw [headerAt?]
  match data.slice pos recordHeaderLength, hlength with
  | [code, size], _ => exact ⟨⟨code, size⟩, rfl⟩

/-! ## Reading at a position -/

/-- Behind a header that stands at a position the string goes on. -/
theorem drop_eq_of_headerAt? (hheader : headerAt? data pos = some h) :
    data.drop pos = h.write ++ data.drop (pos + recordHeaderLength) := by
  rw [headerAt?, Bytes.slice] at hheader
  rw [← List.drop_drop, ← RecordHeader.read?_eq_some_iff.1 hheader, List.take_append_drop]

/-- The walk reads the header that stands where it is. -/
theorem cutHeader_drop (hheader : headerAt? data pos = some h) :
    cutHeader room (data.drop pos) =
      if room < recordHeaderLength + h.size.toNat then .error .overrunsFooter
      else .ok (h, data.drop (pos + recordHeaderLength)) := by
  rw [drop_eq_of_headerAt? hheader, cutHeader_append]

/-- A record whose payload lies in the string stands there with its payload. -/
theorem exists_payload_of_headerAt? (hheader : headerAt? data pos = some h)
    (hfit : pos + recordHeaderLength + h.size.toNat ≤ data.length) :
    ∃ payload, payload.length = h.size.toNat ∧
      data.drop pos
        = (h.write ++ payload) ++ data.drop (pos + recordHeaderLength + h.size.toNat) := by
  refine ⟨data.slice (pos + recordHeaderLength) h.size.toNat, Bytes.length_slice hfit, ?_⟩
  have hcut := List.take_append_drop h.size.toNat (data.drop (pos + recordHeaderLength))
  rw [List.drop_drop] at hcut
  rw [drop_eq_of_headerAt? hheader, List.append_assoc, Bytes.slice, hcut]

/-! ## Runs of records -/

/-- A run never passes the footer's start. -/
theorem SoundRun.le (hrun : SoundRun data stop pos hashed last lastHashed) (hle : pos ≤ stop) :
    last ≤ stop := by
  induction hrun with
  | nil => exact hle
  | cons _ _ hsound _ ih => exact ih (recordFault?_eq_none_iff.1 hsound).1

/-- A run is at its start, or the record there is sound and it goes on behind it. -/
theorem SoundRun.eq_or_rest (hrun : SoundRun data stop pos hashed last lastHashed)
    (hheader : headerAt? data pos = some h) :
    (last = pos ∧ lastHashed = hashed) ∨
      (recordFault? stop pos hashed h = none ∧
        SoundRun data stop (pos + recordHeaderLength + h.size.toNat) (hashed || h.code == hashCode)
          last lastHashed) := by
  cases hrun with
  | nil => exact .inl ⟨rfl, rfl⟩
  | cons _ hheader' hsound hrest =>
    obtain rfl := Option.some.inj (hheader.symm.trans hheader')
    exact .inr ⟨hsound, hrest⟩

/-- A broken record is the first thing wrong, if the walk stands on it. -/
theorem firstDefect_iff_of_fault (hin : pos < stop) (hheader : headerAt? data pos = some h)
    (hfault : recordFault? stop pos hashed h = some other) :
    FirstDefect data stop pos hashed defect ↔ defect = other := by
  constructor
  · intro hfirst
    cases hfirst with
    | broken hrun _ hheader' hfault' =>
      rcases hrun.eq_or_rest hheader with ⟨rfl, rfl⟩ | ⟨hsound, -⟩
      · obtain rfl := Option.some.inj (hheader.symm.trans hheader')
        exact Option.some.inj (hfault'.symm.trans hfault)
      · simp [hfault] at hsound
    | unhashed hrun =>
      rcases hrun.eq_or_rest hheader with ⟨rfl, -⟩ | ⟨hsound, -⟩
      · exact absurd hin (Nat.lt_irrefl _)
      · simp [hfault] at hsound
  · rintro rfl
    exact .broken (.nil pos hashed) hin hheader hfault

/-- Behind a sound record it is what is wrong with the rest. -/
theorem firstDefect_iff_of_sound (hin : pos < stop) (hheader : headerAt? data pos = some h)
    (hsound : recordFault? stop pos hashed h = none) :
    FirstDefect data stop pos hashed defect ↔
      FirstDefect data stop (pos + recordHeaderLength + h.size.toNat) (hashed || h.code == hashCode)
        defect := by
  constructor
  · intro hfirst
    cases hfirst with
    | broken hrun hin' hheader' hfault =>
      rcases hrun.eq_or_rest hheader with ⟨rfl, rfl⟩ | ⟨-, hrest⟩
      · obtain rfl := Option.some.inj (hheader.symm.trans hheader')
        simp [hsound] at hfault
      · exact .broken hrest hin' hheader' hfault
    | unhashed hrun =>
      rcases hrun.eq_or_rest hheader with ⟨rfl, -⟩ | ⟨-, hrest⟩
      · exact absurd hin (Nat.lt_irrefl _)
      · exact .unhashed hrest
  · intro hfirst
    cases hfirst with
    | broken hrun hin' hheader' hfault =>
      exact .broken (.cons hin hheader hsound hrun) hin' hheader' hfault
    | unhashed hrun => exact .unhashed (.cons hin hheader hsound hrun)

/-- At the footer only a hash can be missing. -/
theorem firstDefect_stop_iff :
    FirstDefect data stop stop hashed defect ↔ hashed = false ∧ defect = .missingHash := by
  constructor
  · intro hfirst
    cases hfirst with
    | broken hrun hin' =>
      cases hrun with
      | nil => exact absurd hin' (Nat.lt_irrefl _)
      | cons hin => exact absurd hin (Nat.lt_irrefl _)
    | unhashed hrun =>
      cases hrun with
      | nil => exact ⟨rfl, rfl⟩
      | cons hin => exact absurd hin (Nat.lt_irrefl _)
  · rintro ⟨rfl, rfl⟩
    exact .unhashed (.nil stop false)

/-- What can be wrong with records. -/
theorem FirstDefect.mem (hfirst : FirstDefect data stop pos hashed defect) :
    defect ∈ [Defect.overrunsFooter, .unknownCode, .badAreaLength, .badHashLength, .areaAfterHash,
      .duplicateHash, .missingHash] := by
  cases hfirst with
  | broken _ _ _ hfault =>
    unfold recordFault? at hfault
    grind
  | unhashed => simp

/-! ## The walk -/

/-- The walk stops at a broken record, with the first rule that it breaks. -/
theorem recordsFrom_drop_of_fault (hin : pos < stop) (hheader : headerAt? data pos = some h)
    (hfault : recordFault? stop pos false h = some defect) :
    recordsFrom position (stop - pos) (data.drop pos) = .error defect := by
  rw [recordsFrom, dif_neg (by omega), cutHeader_drop hheader]
  by_cases hfit : pos + recordHeaderLength + h.size.toNat ≤ stop
  · rw [recordFault?_of_fit hfit] at hfault
    rw [if_neg (by omega)]
    by_cases harea : h.code = areaCode
    · simp only [if_pos harea] at hfault ⊢
      split at hfault
      · next hsize => rw [if_pos hsize, Option.some.inj hfault]
      · cases hfault
    by_cases hhash : h.code = hashCode
    · simp only [if_neg harea, if_pos hhash] at hfault ⊢
      split at hfault
      · next hsize => rw [if_pos hsize, Option.some.inj hfault]
      · cases hfault
    · simp only [if_neg harea, if_neg hhash] at hfault ⊢
      rw [Option.some.inj hfault]
  · rw [recordFault?_of_long (Nat.lt_of_not_le hfit)] at hfault
    rw [if_pos (by omega), Option.some.inj hfault]

/-- Behind the hash every record is broken. -/
theorem closed_drop_of_fault (hin : pos < stop) (hheader : headerAt? data pos = some h)
    (hfault : recordFault? stop pos true h = some defect) :
    closed (stop - pos) (data.drop pos) = .error defect := by
  rw [closed, if_neg (by omega), cutHeader_drop hheader]
  by_cases hfit : pos + recordHeaderLength + h.size.toNat ≤ stop
  · rw [recordFault?_of_fit hfit] at hfault
    rw [if_neg (by omega)]
    by_cases harea : h.code = areaCode
    · simp only [if_pos harea] at hfault ⊢
      by_cases hsize : h.size.toNat = areaPayloadLength <;> simp_all
    by_cases hhash : h.code = hashCode
    · simp only [if_neg harea, if_pos hhash] at hfault ⊢
      by_cases hsize : h.size.toNat = hashPayloadLength <;> simp_all
    · simp only [if_neg harea, if_neg hhash] at hfault ⊢
      rw [Option.some.inj hfault]
  · rw [recordFault?_of_long (Nat.lt_of_not_le hfit)] at hfault
    rw [if_pos (by omega), Option.some.inj hfault]

theorem recordsFrom_area_eq_error_iff {a : AreaRecord} {rest : Bytes}
    (ha : a.header = AreaRecord.standardHeader) :
    recordsFrom position (room + 14) (a.write ++ rest) = .error defect ↔
      recordsFrom (position + 14) room rest = .error defect := by
  rw [recordsFrom_area ha]
  cases recordsFrom (position + 14) room rest <;> simp

theorem recordsFrom_hash_eq_error_iff {d : Digest} {rest : Bytes} :
    recordsFrom position (room + 34) ((HashRecord.ofDigest d).write ++ rest) = .error defect ↔
      closed room rest = .error defect := by
  rw [recordsFrom_hash]
  cases closed room rest <;> simp

/-- Behind the hash the walk fails at the record that stands there. -/
theorem closed_drop_eq_error_iff (hpos : pos ≤ stop) (hstop : stop < data.length) :
    closed (stop - pos) (data.drop pos) = .error defect ↔
      FirstDefect data stop pos true defect := by
  rcases Nat.eq_or_lt_of_le hpos with rfl | hin
  · simp [closed, firstDefect_stop_iff]
  obtain ⟨h, hheader⟩ : ∃ h, headerAt? data pos = some h :=
    exists_headerAt? (by rw [recordHeaderLength]; omega)
  cases hfault : recordFault? stop pos true h with
  | none => simp [recordFault?_eq_none_iff] at hfault
  | some other =>
    rw [firstDefect_iff_of_fault hin hheader hfault, closed_drop_of_fault hin hheader hfault,
      Except.error.injEq, eq_comm]

/-- The walk fails as the first record that breaks a rule, and for want of a hash only if none does. -/
theorem recordsFrom_drop_eq_error_iff (hpos : pos ≤ stop) (hstop : stop < data.length) :
    recordsFrom position (stop - pos) (data.drop pos) = .error defect ↔
      FirstDefect data stop pos false defect := by
  -- On what is left in front of the footer: behind a sound area the walk goes on, behind a hash it is
  -- `closed`.
  induction hn : stop - pos using Nat.strongRecOn generalizing pos position with
  | ind n ih =>
  subst hn
  rcases Nat.eq_or_lt_of_le hpos with rfl | hin
  · simp [recordsFrom, firstDefect_stop_iff, eq_comm]
  obtain ⟨h, hheader⟩ : ∃ h, headerAt? data pos = some h :=
    exists_headerAt? (by rw [recordHeaderLength]; omega)
  cases hfault : recordFault? stop pos false h with
  | some other =>
    rw [firstDefect_iff_of_fault hin hheader hfault, recordsFrom_drop_of_fault hin hheader hfault,
      Except.error.injEq, eq_comm]
  | none =>
    rw [firstDefect_iff_of_sound hin hheader hfault]
    obtain ⟨hfit, -, hstandard⟩ := recordFault?_eq_none_iff.1 hfault
    obtain ⟨payload, hpayload, hdrop⟩ :=
      exists_payload_of_headerAt? hheader (Nat.le_of_lt (Nat.lt_of_le_of_lt hfit hstop))
    rw [hdrop]
    obtain rfl | rfl := hstandard
    · change pos + 14 ≤ stop at hfit
      obtain ⟨a, ha, rfl⟩ := AreaRecord.exists_payload_eq AreaRecord.standardHeader hpayload
      rw [← ha, ← AreaRecord.write, ha,
        show stop - pos = stop - (pos + 14) + 14 by omega, recordsFrom_area_eq_error_iff ha]
      exact ih _ (by omega) hfit rfl
    · change pos + 34 ≤ stop at hfit
      obtain ⟨d, rfl⟩ : ∃ d : Digest, payload = d.bytes := ⟨⟨payload, hpayload⟩, rfl⟩
      rw [show stop - pos = stop - (pos + 34) + 34 by omega]
      exact recordsFrom_hash_eq_error_iff.trans (closed_drop_eq_error_iff hfit hstop)

/-! ## Areas without a hash -/

theorem cutHeader_ne_missingHash (room : Nat) (bs : Bytes) :
    cutHeader room bs ≠ .error .missingHash := by
  intro h
  unfold cutHeader at h
  split at h
  · split at h <;> cases h
  · cases h

/-- Behind the hash none is missing. -/
theorem closed_ne_missingHash (room : Nat) (bs : Bytes) : closed room bs ≠ .error .missingHash := by
  intro h
  unfold closed at h
  split at h
  · cases h
  split at h
  · next hc =>
    rw [Except.error.inj h] at hc
    exact cutHeader_ne_missingHash room bs hc
  · grind

/-- The walk misses the hash exactly where the records of areas fill the room in front of the
footer. -/
theorem recordsFrom_eq_missingHash_iff {bs : Bytes} :
    recordsFrom position room bs = .error .missingHash ↔
      ∃ areas : List AreaRecord, (∀ a ∈ areas, a.header = AreaRecord.standardHeader) ∧
        room = 14 * areas.length ∧ ∃ behind, bs = areas.flatMap AreaRecord.write ++ behind := by
  constructor
  · intro h
    -- At an area the hash is missing behind it; every other end of the walk is another one.
    fun_induction recordsFrom position room bs with
    | case1 position bs => exact ⟨[], by simp, rfl, bs, rfl⟩
    | case2 position room bs _ defect hc =>
      rw [Except.error.inj h] at hc
      exact absurd hc (cutHeader_ne_missingHash room bs)
    | case6 position room bs _ header tail hc _ hcode hsize payload rest hsplit a ha _ hrest ih =>
      obtain ⟨rfl, hfit⟩ := cutHeader_eq_ok_iff.1 hc
      obtain ⟨rfl, -⟩ := Bytes.split?_eq_some_iff.1 hsplit
      obtain ⟨hh, rfl⟩ := AreaRecord.ofPayload?_eq_some_iff.1 ha
      have hstd : header = AreaRecord.standardHeader :=
        RecordHeader.eq_mk (by decide) hcode (Decidable.of_not_not hsize)
      obtain ⟨areas, hareas, hroom, behind, rfl⟩ := ih (hrest.trans (congrArg _ (Except.error.inj h)))
      refine ⟨a :: areas, List.forall_mem_cons.2 ⟨hh.trans hstd, hareas⟩, ?_, behind, ?_⟩
      · rw [Decidable.of_not_not hsize] at hfit
        simp only [recordHeaderLength, areaPayloadLength, List.length_cons] at hfit hroom ⊢
        omega
      · rw [← hh, List.flatMap_cons, AreaRecord.write, List.append_assoc, List.append_assoc]
    | case11 position room bs _ header tail hc _ hcode hsize payload rest hsplit digest hd _ hclosed =>
      rw [Except.error.inj h] at hclosed
      exact absurd hclosed (closed_ne_missingHash _ rest)
    | _ => cases h
  · rintro ⟨areas, hareas, rfl, behind, rfl⟩
    induction areas generalizing position with
    | nil => rw [recordsFrom, dif_pos (by rfl)]
    | cons a areas ih =>
      obtain ⟨ha, hareas⟩ := List.forall_mem_cons.1 hareas
      rw [List.flatMap_cons, List.append_assoc, List.length_cons, Nat.mul_succ,
        recordsFrom_area_eq_error_iff ha]
      exact ih hareas

end Region

end FlashSeal
