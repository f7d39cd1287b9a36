/-
FlashSeal.Proofs.EmbedWork — the course of sealing an image file, step by step.

Sealing begins quietly: the map is loaded and the image is read (`openImage`).  What follows depends on
the map and the image alone, until the sealed image is written (`resume_sealOpened`).  So a run that
succeeds has its parts, from the map to the image that was written (`exists_of_embed`).

The digest and the reader of documents are arbitrary functions throughout.
-/
import FlashSeal.Command.Embed
import FlashSeal.Proofs.SessionWork

namespace FlashSeal

/-- An image that has its size already is not padded. -/
theorem Bytes.padTo_length (bs : Bytes) : bs.padTo bs.length = bs := by
  simp [padTo, erased]

namespace Session

open Text Toml

variable {digest : Bytes → Digest} {document? : String → Option Entries} {store : Store}
  {mapPath input output : String} {padTo : Option Nat} {m : FlashMap} {image : Bytes}

/-! ## The map and the image -/

/-- How sealing begins: the map is loaded and the image is read. -/
def openImage (mapPath input : String) (document? : String → Option Entries) :
    Session (FlashMap × Bytes) := do
  let m ← loadMap mapPath document?
  report [.mapLoaded mapPath (some m.size)]
  let image ← readImage input
  return (m, image)

/-- What sealing does with a map and an image. -/
def sealOpened (input output : String) (padTo : Option Nat) (digest : Bytes → Digest) (m : FlashMap)
    (image : Bytes) : Session Unit := do
  print ["Read " ++ decimal image.length ++ " bytes from " ++ quoted input]
  let size := padTo.getD image.length
  let (fits, padded) := (padImage size).on image
  require id fits
  print (paddingLines image.length size)
  report (Journal.embed m padded digest)
  let (outcome, final) := (FlashSeal.embed m digest).on padded
  let placement ← require .region outcome
  writeImage output final
  print (placementLines placement)
  print ["Wrote " ++ decimal final.length ++ " bytes to " ++ quoted output]

theorem embed_eq (mapPath input output : String) (padTo : Option Nat) :
    embed mapPath input output padTo digest document? =
      openImage mapPath input document? >>= fun opened =>
        sealOpened input output padTo digest opened.1 opened.2 := by
  simp only [embed, sealOpened, openImage, bind_assoc, pure_bind]

theorem quiet_openImage (mapPath input : String) : Quiet (openImage mapPath input document?) :=
  (quiet_loadMap mapPath).bind fun m => (quiet_report _).bind fun _ =>
    (quiet_readImage input).bind fun image => quiet_pure (m, image)

theorem on_openImage (mapPath input : String) (store : Store) :
    ((openImage mapPath input document?).on store).1 =
      ((loadMap mapPath document?).on store).1 >>= fun m =>
        (store.read input).mapError .file >>= fun image => .ok (m, image) := by
  have hlater (m : FlashMap) : Quiet (do
      report [.mapLoaded mapPath (some m.size)]
      let image ← readImage input
      return (m, image)) :=
    (quiet_report _).bind fun _ => (quiet_readImage input).bind fun image => quiet_pure (m, image)
  rw [openImage, (quiet_loadMap mapPath).on_bind hlater]
  refine bind_congr fun m => ?_
  simp only [on_eq_resume, resume_bind, resume_report, resume_readImage]
  cases store.read input <;> rfl

theorem openImage_eq_ok_iff :
    ((openImage mapPath input document?).on store).1 = .ok (m, image) ↔
      ((loadMap mapPath document?).on store).1 = .ok m ∧ store.read input = .ok image := by
  simp [on_openImage, Except.bind_eq_ok_iff, Except.mapError_eq_ok_iff]

/-! ## The sealed image -/

/-- The line that tells of the image that was read. -/
def readLine (image : Bytes) (input : String) : String :=
  "Read " ++ decimal image.length ++ " bytes from " ++ quoted input

/-- The line that tells of the image that was written. -/
def wroteLine (final : Bytes) (output : String) : String :=
  "Wrote " ++ decimal final.length ++ " bytes to " ++ quoted output

/-- An image that is not too long is padded to the size, and any other is left as it was. -/
theorem padImage_on (size : Nat) (image : Bytes) :
    (padImage size).on image =
      if size < image.length then (.error (.longerThanPad image.length size), image)
      else (.ok (), image.padTo size) := by
  unfold padImage
  rw [Work.on_bind, Work.on_get]
  simp only
  by_cases hlong : size < image.length
  · rw [if_pos hlong, if_pos hlong, Work.on_bind, Work.on_throw]
  rw [if_neg hlong, if_neg hlong]
  by_cases hshort : image.length < size
  · rw [if_pos hshort, Work.on_modify]
  · obtain rfl : image.length = size := by omega
    rw [if_neg hshort, Work.on_pure, Bytes.padTo_length]

/-- Sealing stops at the first of padding, embedding and writing that fails, and the store is as it
was unless none does. -/
theorem resume_sealOpened {size : Nat} (hsize : padTo.getD image.length = size) (p : Progress) :
    (sealOpened input output padTo digest m image).resume p =
      if size < image.length then
        (.error (.longerThanPad image.length size),
          { p with lines := p.lines ++ [readLine image input] })
      else
        let q := { p with
          lines := p.lines ++ [readLine image input] ++ paddingLines image.length size
          events := p.events ++ Journal.embed m (image.padTo size) digest }
        match (FlashSeal.embed m digest).on (image.padTo size) with
        | (.error e, _) => (.error (.region e), q)
        | (.ok placement, final) =>
          match p.store.write output final with
          | .error e => (.error (.file e), q)
          | .ok written =>
            (.ok (), { q with
              store := written
              lines := q.lines ++ placementLines placement ++ [wroteLine final output] }) := by
  simp only [sealOpened, hsize, resume_bind, resume_print, padImage_on]
  by_cases hlong : size < image.length
  · simp only [if_pos hlong, resume_require]
    rfl
  simp only [if_neg hlong, resume_require, resume_report, Except.ok_mapError]
  rcases (FlashSeal.embed m digest).on (image.padTo size) with ⟨e | placement, final⟩
  · rfl
  · simp only [Except.ok_mapError, resume_writeImage]
    cases p.store.write output final with
    | error e => rfl
    | ok written => rfl

/-- Without a size an image is as if padded to no byte at all. -/
theorem padTo_getD (image : Bytes) (padTo : Option Nat) :
    image.padTo (padTo.getD image.length) = image.padTo (padTo.getD 0) := by
  cases padTo with
  | none => simp [Bytes.padTo]
  | some size => rfl

theorem paddingLines_getD (length : Nat) (padTo : Option Nat) :
    paddingLines length (padTo.getD length) = paddingLines length (padTo.getD 0) := by
  cases padTo with
  | none => simp [paddingLines]
  | some size => rfl

/-- Once the map is loaded and the image is read, a run is what follows. -/
theorem exists_embed_on (hmap : ((loadMap mapPath document?).on store).1 = .ok m)
    (hread : store.read input = .ok image) :
    ∃ events, (embed mapPath input output padTo digest document?).on store =
      (sealOpened input output padTo digest m image).resume ⟨store, [], events⟩ := by
  have hopen := openImage_eq_ok_iff.2 ⟨hmap, hread⟩
  obtain ⟨events, hon⟩ := (quiet_openImage mapPath input).exists_bind_on_of_ok hopen
  refine ⟨events, ?_⟩
  rw [embed_eq, hon]

/-- A run that succeeds loaded the map, read the image, embedded the map's region in it as it was
padded and wrote what that left, and it told so. -/
theorem exists_of_embed {done : Progress}
    (h : (embed mapPath input output padTo digest document?).on store = (.ok (), done)) :
    ∃ m image placement final,
      ((loadMap mapPath document?).on store).1 = .ok m ∧ store.read input = .ok image ∧
      (FlashSeal.embed m digest).on (image.padTo (padTo.getD 0)) = (.ok placement, final) ∧
      store.write output final = .ok done.store ∧
      done.lines = [readLine image input] ++ paddingLines image.length (padTo.getD 0)
        ++ placementLines placement ++ [wroteLine final output] := by
  cases hopen : ((openImage mapPath input document?).on store).1 with
  | error e =>
    rw [embed_eq] at h
    obtain ⟨events, hfailed⟩ := (quiet_openImage mapPath input).exists_bind_on_of_error hopen
    rw [hfailed] at h
    cases h
  | ok opened =>
    obtain ⟨m, image⟩ := opened
    obtain ⟨hmap, hread⟩ := openImage_eq_ok_iff.1 hopen
    obtain ⟨events, hopened⟩ := exists_embed_on hmap hread
    rw [hopened, resume_sealOpened rfl] at h
    split at h
    · cases h
    split at h
    · cases h
    next placement final hsealed =>
    split at h
    · cases h
    next written hwritten =>
    obtain rfl := (Prod.mk.inj h).2
    rw [padTo_getD] at hsealed
    refine ⟨m, image, placement, final, hmap, hread, hsealed, hwritten, ?_⟩
    rw [paddingLines_getD]
    rfl

end Session

end FlashSeal
