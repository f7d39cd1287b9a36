/-
FlashSeal.Proofs.InspectionAgreement — showing a region and checking its digest never disagree.

Both commands open a region in the same way (`openRegion`), so they refuse the same stores and images
for the same reasons.  What they do with it differs: one asks for a verdict and prints it, the other
takes the digest itself and compares.  Both need the digest's window to lie in the image, and every
region that is located has it there (`hashOffset_le_of_locate`), so neither can fail at the digest.

`jointEnd` says how the two end on one store, in three cases; the agreement is read off them.
-/
import FlashSeal.Proofs.RegionSearch
import FlashSeal.Proofs.ImageWork
import FlashSeal.Proofs.SealRoundTrip
import FlashSeal.Proofs.SessionWork
import FlashSeal.Proofs.PrintedNumbers

namespace FlashSeal

open Text

/-- Digests that read the same are the same. -/
theorem Digest.eq_of_hexDump_eq {d d' : Digest} (h : hexDump d.bytes = hexDump d'.bytes) :
    d = d' := by
  cases d
  cases d'
  simpa using injective_of_tells tells_hexDump h

/-! ## Failures at the digest -/

/-- The failure is about the digest: it cannot be taken, or it is not the one that is stored. -/
def CommandError.AtDigest : CommandError → Prop
  | region (.hashOutOfRange _ _) => True
  | hashMismatch _ _ => True
  | _ => False

namespace CommandError

variable {e : CommandError} (he : ¬ e.AtDigest)

include he

theorem ne_hashMismatch (stored computed : Digest) : e ≠ .hashMismatch stored computed := by
  intro heq
  exact he (heq ▸ trivial)

theorem ne_hashOutOfRange (offset length : Nat) :
    e ≠ .region (.hashOutOfRange offset length) := by
  intro heq
  exact he (heq ▸ trivial)

end CommandError

namespace Session

variable {digest : Bytes → Digest} {document? : String → Option Toml.Entries} {store : Store}
  {image : Bytes} {input path : String} {mapPath : Option String} {r : Region} {e : CommandError}

theorem not_atDigest_of_readImage (h : ((readImage input).on store).1 = .error e) :
    ¬ e.AtDigest := by
  rw [on_readImage] at h
  obtain ⟨reason, -, rfl⟩ := Except.mapError_eq_error_iff.1 h
  simp [CommandError.AtDigest]

theorem not_atDigest_of_loadMap (h : ((loadMap path document?).on store).1 = .error e) :
    ¬ e.AtDigest := by
  rw [on_loadMap] at h
  rcases Except.bind_eq_error_iff.1 h with h | ⟨bytes, -, h⟩
  · obtain ⟨reason, -, rfl⟩ := Except.mapError_eq_error_iff.1 h
    simp [CommandError.AtDigest]
  · split at h
    · obtain rfl := Except.error.inj h
      simp [CommandError.AtDigest]
    · obtain ⟨fault, -, rfl⟩ := Except.mapError_eq_error_iff.1 h
      simp [CommandError.AtDigest]

theorem not_atDigest_region {fault : RegionError}
    (h : ∀ offset length, fault ≠ .hashOutOfRange offset length) :
    ¬ (CommandError.region fault).AtDigest := by
  cases fault with
  | hashOutOfRange offset length => exact absurd rfl (h offset length)
  | _ => simp [CommandError.AtDigest]

theorem not_atDigest_of_locate (h : ((locate image mapPath document?).on store).1 = .error e) :
    ¬ e.AtDigest := by
  cases mapPath with
  | none =>
    rw [on_locate_none] at h
    obtain ⟨fault, hfault, rfl⟩ := Except.mapError_eq_error_iff.1 h
    obtain ⟨rfl, -⟩ := Region.find_eq_error_iff.1 hfault
    simp [CommandError.AtDigest]
  | some path =>
    rw [on_locate_some] at h
    rcases Except.bind_eq_error_iff.1 h with h | ⟨m, -, h⟩
    · exact not_atDigest_of_loadMap h
    · obtain ⟨fault, hfault, rfl⟩ := Except.mapError_eq_error_iff.1 h
      refine not_atDigest_region ?_
      intro offset length heq
      rw [heq] at hfault
      exact Region.read_ne_hashOutOfRange image m offset length hfault

/-- The digest's window of every region that is located lies in the image. -/
theorem hashOffset_le_of_locate (h : ((locate image mapPath document?).on store).1 = .ok r) :
    r.hashOffset + digestLength ≤ image.length := by
  cases mapPath with
  | none =>
    rw [on_locate_none, Except.mapError_eq_ok_iff] at h
    obtain ⟨stop, -, hdecode, -⟩ := Region.find_eq_ok_iff.1 h
    exact Region.hashOffset_le_of_decode_take hdecode
  | some path =>
    rw [on_locate_some] at h
    obtain ⟨m, -, hread⟩ := Except.bind_eq_ok_iff.1 h
    obtain ⟨boot, -, -, hdecode, -⟩ :=
      Region.read_eq_ok_iff.1 (Except.mapError_eq_ok_iff.1 hread)
    exact Region.hashOffset_le_of_decode_take hdecode

/-! ## Opening a region -/

/-- How both commands begin: they read the image and locate its region. -/
def openRegion (input : String) (mapPath : Option String)
    (document? : String → Option Toml.Entries) : Session (Bytes × Region) := do
  let image ← readImage input
  let region ← locate image mapPath document?
  return (image, region)

theorem quiet_openRegion (input : String) (mapPath : Option String) :
    Quiet (openRegion input mapPath document?) :=
  (quiet_readImage input).bind fun image => (quiet_locate image mapPath).bind fun r =>
    quiet_pure (image, r)

theorem on_openRegion (input : String) (mapPath : Option String) (store : Store) :
    ((openRegion input mapPath document?).on store).1 =
      ((readImage input).on store).1 >>= fun image =>
        ((locate image mapPath document?).on store).1 >>= fun r => .ok (image, r) := by
  have hlater (image : Bytes) : Quiet (locate image mapPath document? >>= fun r => pure (image, r)) :=
    (quiet_locate image mapPath).bind fun r => quiet_pure (image, r)
  rw [openRegion, (quiet_readImage input).on_bind hlater]
  refine bind_congr fun image => ?_
  rw [(quiet_locate image mapPath).on_bind fun r => quiet_pure (image, r)]
  rfl

theorem openRegion_eq_ok_iff :
    ((openRegion input mapPath document?).on store).1 = .ok (image, r) ↔
      store.read input = .ok image ∧ ((locate image mapPath document?).on store).1 = .ok r := by
  simp [on_openRegion, on_readImage, Except.bind_eq_ok_iff, Except.mapError_eq_ok_iff]

/-- Without a map, what searching finds is opened. -/
theorem openRegion_of_find (hread : store.read input = .ok image) (hfind : Region.find image = .ok r) :
    ((openRegion input none document?).on store).1 = .ok (image, r) := by
  refine openRegion_eq_ok_iff.2 ⟨hread, ?_⟩
  rw [on_locate_none, hfind]
  rfl

theorem not_atDigest_of_openRegion (h : ((openRegion input mapPath document?).on store).1 = .error e) :
    ¬ e.AtDigest := by
  rw [on_openRegion] at h
  rcases Except.bind_eq_error_iff.1 h with h | ⟨image, -, h⟩
  · exact not_atDigest_of_readImage h
  · rcases Except.bind_eq_error_iff.1 h with h | ⟨r, -, h⟩
    · exact not_atDigest_of_locate h
    · cases h

/-! ## The two commands -/

/-- What showing does with a region that was opened. -/
def describeOpened (digest : Bytes → Digest) (image : Bytes) (region : Region) : Session Unit := do
  print (regionLines region)
  let valid ← require .region ((FlashSeal.verify region digest).on image).1
  print (verdictLines valid)

/-- What checking does with a region that was opened. -/
def verifyOpened (digest : Bytes → Digest) (image : Bytes) (region : Region) : Session Unit := do
  let computed ← require .region ((calcHash region.hashOffset digest).on image).1
  if computed ≠ region.hash then throw (.hashMismatch region.hash computed)
  print ["Meta hash OK: " ++ hexDump computed.bytes]

theorem describe_eq (input : String) (mapPath : Option String) :
    describe input mapPath digest document? =
      openRegion input mapPath document? >>= fun opened =>
        describeOpened digest opened.1 opened.2 := by
  simp only [describe, describeOpened, openRegion, bind_assoc, pure_bind]

theorem verify_eq (input : String) (mapPath : Option String) :
    verify input mapPath digest document? =
      openRegion input mapPath document? >>= fun opened => verifyOpened digest opened.1 opened.2 := by
  simp only [verify, verifyOpened, openRegion, bind_assoc, pure_bind]

theorem resume_describeOpened (h : r.hashOffset + digestLength ≤ image.length) (p : Progress) :
    (describeOpened digest image r).resume p =
      (.ok (), { p with lines := p.lines ++ (regionLines r
        ++ verdictLines (decide (digest (image.blanked r.hashOffset) = r.hash))) }) := by
  simp only [describeOpened, resume_bind, resume_print, resume_require, verify_on, if_pos h,
    Except.ok_mapError, List.append_assoc]

theorem resume_verifyOpened (h : r.hashOffset + digestLength ≤ image.length) (p : Progress) :
    (verifyOpened digest image r).resume p =
      if digest (image.blanked r.hashOffset) = r.hash then
        (.ok (), { p with lines := p.lines ++ ["Meta hash OK: " ++ hexDump r.hash.bytes] })
      else (.error (.hashMismatch r.hash (digest (image.blanked r.hashOffset))), p) := by
  simp only [verifyOpened, resume_bind, resume_require, calcHash_on, if_pos h, Except.ok_mapError]
  by_cases heq : digest (image.blanked r.hashOffset) = r.hash
  · rw [if_pos heq, if_neg (not_not.2 heq), heq, resume_print]
  · rw [if_neg heq, if_pos heq, resume_bind, resume_throw]

/-- Showing a region that is opened succeeds, and its verdict is whether the stored digest is the
image's. -/
theorem exists_describe_on (hopen : ((openRegion input mapPath document?).on store).1 = .ok (image, r)) :
    ∃ events, (describe input mapPath digest document?).on store =
      (.ok (), ⟨store, regionLines r
        ++ verdictLines (decide (digest (image.blanked r.hashOffset) = r.hash)), events⟩) := by
  have hin := hashOffset_le_of_locate (openRegion_eq_ok_iff.1 hopen).2
  rw [describe_eq]
  obtain ⟨events, hshown⟩ := (quiet_openRegion input mapPath).exists_bind_on_of_ok hopen
  refine ⟨events, ?_⟩
  rw [hshown, resume_describeOpened hin, List.nil_append]

/-- Checking a region that is opened fails exactly when the stored digest is not the image's. -/
theorem exists_verify_on (hopen : ((openRegion input mapPath document?).on store).1 = .ok (image, r)) :
    ∃ events, (verify input mapPath digest document?).on store =
      if digest (image.blanked r.hashOffset) = r.hash then
        (.ok (), ⟨store, ["Meta hash OK: " ++ hexDump r.hash.bytes], events⟩)
      else
        (.error (.hashMismatch r.hash (digest (image.blanked r.hashOffset))),
          ⟨store, [], events⟩) := by
  have hin := hashOffset_le_of_locate (openRegion_eq_ok_iff.1 hopen).2
  rw [verify_eq]
  obtain ⟨events, hchecked⟩ := (quiet_openRegion input mapPath).exists_bind_on_of_ok hopen
  refine ⟨events, ?_⟩
  rw [hchecked, resume_verifyOpened hin, List.nil_append]

/-- How showing a region and checking its digest end on one store, with what each printed. -/
inductive JointEnd (digest : Bytes → Digest) (document? : String → Option Toml.Entries)
    (store : Store) (input : String) (mapPath : Option String) :
    Except CommandError Unit × Progress → Except CommandError Unit × Progress → Prop
  /-- No region is opened, and both say why. -/
  | refused (e : CommandError) (he : ¬ e.AtDigest) (events events' : List Event) :
      JointEnd digest document? store input mapPath
        (.error e, ⟨store, [], events⟩) (.error e, ⟨store, [], events'⟩)
  /-- The digest that the region stores is the image's. -/
  | valid (image : Bytes) (r : Region)
      (hopen : ((openRegion input mapPath document?).on store).1 = .ok (image, r))
      (hdigest : digest (image.blanked r.hashOffset) = r.hash) (events events' : List Event) :
      JointEnd digest document? store input mapPath
        (.ok (), ⟨store, regionLines r ++ verdictLines true, events⟩)
        (.ok (), ⟨store, ["Meta hash OK: " ++ hexDump r.hash.bytes], events'⟩)
  /-- The digest that the region stores is another one. -/
  | invalid (image : Bytes) (r : Region)
      (hopen : ((openRegion input mapPath document?).on store).1 = .ok (image, r))
      (hdigest : digest (image.blanked r.hashOffset) ≠ r.hash) (events events' : List Event) :
      JointEnd digest document? store input mapPath
        (.ok (), ⟨store, regionLines r ++ verdictLines false, events⟩)
        (.error (.hashMismatch r.hash (digest (image.blanked r.hashOffset))),
          ⟨store, [], events'⟩)

theorem jointEnd (store : Store) (input : String) (mapPath : Option String) :
    JointEnd digest document? store input mapPath
      ((describe input mapPath digest document?).on store)
      ((verify input mapPath digest document?).on store) := by
  have hquiet : Quiet (openRegion input mapPath document?) := quiet_openRegion input mapPath
  cases hopen : ((openRegion input mapPath document?).on store).1 with
  | error e =>
    rw [describe_eq, verify_eq]
    obtain ⟨events, hshown⟩ := hquiet.exists_bind_on_of_error hopen
    obtain ⟨events', hchecked⟩ := hquiet.exists_bind_on_of_error hopen
    rw [hshown, hchecked]
    exact .refused e (not_atDigest_of_openRegion hopen) events events'
  | ok opened =>
    obtain ⟨image, r⟩ := opened
    obtain ⟨events, hshown⟩ := exists_describe_on hopen
    obtain ⟨events', hchecked⟩ := exists_verify_on hopen
    rw [hshown, hchecked]
    by_cases hdigest : digest (image.blanked r.hashOffset) = r.hash
    · rw [if_pos hdigest, decide_eq_true hdigest]
      exact .valid image r hopen hdigest events events'
    · rw [if_neg hdigest, decide_eq_false hdigest]
      exact .invalid image r hopen hdigest events events'

/-! ## Agreement -/

namespace JointEnd

variable {shown checked : Except CommandError Unit × Progress}
  (h : JointEnd digest document? store input mapPath shown checked)

include h

theorem shows_valid_iff :
    (shown.1 = .ok () ∧ shown.2.lines.getLast? = some "Hash:   valid") ↔ checked.1 = .ok () := by
  cases h <;> simp [verdictLines]

theorem shows_invalid_iff :
    (shown.1 = .ok () ∧ shown.2.lines.getLast? = some "Hash:   INVALID") ↔
      ∃ stored computed, checked.1 = .error (.hashMismatch stored computed) := by
  cases h with
  | refused e he => simp [CommandError.ne_hashMismatch he]
  | valid => simp [verdictLines]
  | invalid => simp [verdictLines]

/-- A mismatch names the digest that was shown, and another one. -/
theorem of_mismatch {stored computed : Digest}
    (hmismatch : checked.1 = .error (.hashMismatch stored computed)) :
    hexDump computed.bytes ≠ hexDump stored.bytes ∧
      ∃ r, r.hash = stored ∧ shown.2.lines = regionLines r ++ verdictLines false ∧
        "Hash:    " ++ hexDump stored.bytes ++ " (at " ++ address r.hashOffset ++ ")"
          ∈ shown.2.lines := by
  cases h with
  | refused e he =>
    exact absurd (Except.error.inj hmismatch) (CommandError.ne_hashMismatch he stored computed)
  | valid => cases hmismatch
  | invalid image r hopen hdigest =>
    cases hmismatch
    refine ⟨?_, r, rfl, rfl, ?_⟩
    · intro hsame
      exact hdigest (Digest.eq_of_hexDump_eq hsame)
    · simp [regionLines]

theorem shows_error_iff {e : CommandError} :
    shown.1 = .error e ↔
      checked.1 = .error e ∧ ∀ stored computed, e ≠ .hashMismatch stored computed := by
  cases h with
  | refused e' he =>
    constructor
    · intro heq
      obtain rfl := Except.error.inj heq
      exact ⟨rfl, CommandError.ne_hashMismatch he⟩
    · intro ⟨heq, _⟩
      exact heq
  | valid => simp
  | invalid image r =>
    simp only [reduceCtorEq, false_iff, not_and, not_forall, not_not]
    intro heq
    exact ⟨_, _, (Except.error.inj heq).symm⟩

theorem lines_of_error {e : CommandError} (he : shown.1 = .error e) :
    shown.2.lines = [] ∧ checked.2.lines = [] := by
  cases h with
  | refused => simp
  | valid => cases he
  | invalid => cases he

theorem ne_hashOutOfRange (offset length : Nat) :
    shown.1 ≠ .error (.region (.hashOutOfRange offset length)) ∧
      checked.1 ≠ .error (.region (.hashOutOfRange offset length)) := by
  cases h with
  | refused e he => simp [CommandError.ne_hashOutOfRange he offset length]
  | valid => simp
  | invalid => simp

end JointEnd

/-- Showing ends with a valid digest exactly when checking succeeds, and with an invalid one exactly
when checking finds another digest than the one that was shown.  Showing fails exactly when checking
fails for any other reason, which is the same, and then neither prints anything.  Neither fails for
want of bytes to hash, because every region that is located has its digest's window in the image. -/
theorem describe_verify_agree (digest : Bytes → Digest) (document? : String → Option Toml.Entries)
    (store : Store) (input : String) (mapPath : Option String) :
    let shown := (describe input mapPath digest document?).on store
    let checked := (verify input mapPath digest document?).on store
    ((shown.1 = .ok () ∧ shown.2.lines.getLast? = some "Hash:   valid") ↔ checked.1 = .ok ()) ∧
    ((shown.1 = .ok () ∧ shown.2.lines.getLast? = some "Hash:   INVALID") ↔
      ∃ stored computed, checked.1 = .error (.hashMismatch stored computed)) ∧
    (∀ stored computed, checked.1 = .error (.hashMismatch stored computed) →
      hexDump computed.bytes ≠ hexDump stored.bytes ∧
      ∃ r, r.hash = stored ∧ shown.2.lines = regionLines r ++ verdictLines false ∧
        "Hash:    " ++ hexDump stored.bytes ++ " (at " ++ address r.hashOffset ++ ")"
          ∈ shown.2.lines) ∧
    (∀ e, shown.1 = .error e ↔
      checked.1 = .error e ∧ ∀ stored computed, e ≠ .hashMismatch stored computed) ∧
    (∀ e, shown.1 = .error e → shown.2.lines = [] ∧ checked.2.lines = []) ∧
    (∀ offset length, shown.1 ≠ .error (.region (.hashOutOfRange offset length)) ∧
      checked.1 ≠ .error (.region (.hashOutOfRange offset length))) ∧
    (∀ image r, ((locate image mapPath document?).on store).1 = .ok r →
      r.hashOffset + digestLength ≤ image.length) := by
  have h : JointEnd digest document? store input mapPath _ _ := jointEnd store input mapPath
  refine ⟨h.shows_valid_iff, h.shows_invalid_iff, ?_, ?_, ?_, h.ne_hashOutOfRange, ?_⟩
  · intro stored computed hmismatch
    exact h.of_mismatch hmismatch
  · intro e
    exact h.shows_error_iff
  · intro e he
    exact h.lines_of_error he
  · intro image r hr
    exact hashOffset_le_of_locate hr

/-- A sealed image, and one whose seal was never filled in. -/
def shelf : Store where
  files := [(["sealed.bin"], bootImageWith bootDigest), (["open.bin"], bootImageWith .zero)]

theorem describe_verify_agree_shelf :
    ((describe "sealed.bin" none).on shelf).2.lines.getLast? = some "Hash:   valid" ∧
    ((describe "open.bin" none).on shelf).2.lines.getLast? = some "Hash:   INVALID" ∧
    ((describe "missing.bin" none).on shelf).1 = .error (.file .notFound) ∧
    ((describe "missing.bin" none).on shelf).2.lines = [] := by
  have hsealed : sha256 ((bootImageWith bootDigest).blanked 38) = bootDigest := by decide +kernel
  have hopen : sha256 ((bootImageWith .zero).blanked 38) ≠ .zero := by decide +kernel
  have hread : shelf.read "sealed.bin" = .ok (bootImageWith bootDigest) := by rfl
  have hreadOpen : shelf.read "open.bin" = .ok (bootImageWith .zero) := by rfl
  have hfind : Region.find (bootImageWith bootDigest)
      = .ok (.current 4 twoAreaRecords bootDigest) := by cbv
  have hfindOpen : Region.find (bootImageWith .zero)
      = .ok (.current 4 twoAreaRecords .zero) := by cbv
  obtain ⟨_, hchecked⟩ := exists_verify_on (openRegion_of_find hread hfind)
  obtain ⟨_, hmismatch⟩ := exists_verify_on (openRegion_of_find hreadOpen hfindOpen)
  have hmissing : ((verify "missing.bin" none).on shelf).1 = .error (.file .notFound) := by rfl
  obtain ⟨hvalid, -, -, -, -, -, -⟩ :=
    describe_verify_agree sha256 Toml.document? shelf "sealed.bin" none
  obtain ⟨-, hinvalid, -, -, -, -, -⟩ :=
    describe_verify_agree sha256 Toml.document? shelf "open.bin" none
  obtain ⟨-, -, -, herror, hsilent, -, -⟩ :=
    describe_verify_agree sha256 Toml.document? shelf "missing.bin" none
  have hrefused := (herror _).2 ⟨hmissing, by simp⟩
  refine ⟨(hvalid.2 ?_).2, (hinvalid.2 ?_).2, hrefused, (hsilent _ hrefused).1⟩
  · rw [hchecked]
    exact congrArg Prod.fst (if_pos hsealed)
  · rw [hmismatch]
    exact ⟨_, _, congrArg Prod.fst (if_neg hopen)⟩

end Session

end FlashSeal
