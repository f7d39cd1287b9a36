/-
FlashSeal.Proofs.EmbedOutcome — how sealing an image file ends, and what it leaves behind.

Sealing goes through five steps that may fail, and the first that does decides (`EmbedFault`).  A file is
written in the last of them alone, when the whole image stands in memory, so no failure leaves a file
that is half done.  A success changes the output and no other file, be the output a new file, the image
itself or the map.

What is printed about the seal is not looked up in the written image.  It is what reading that image
with the same map reports, because the placement of a sealing and its region are the same numbers, and
each of them is printed as no other number is (`Tells`).
-/
import FlashSeal.Proofs.PaddedSealing

namespace FlashSeal

/-- Writing changes the file that the path leads to and no other, and makes no directory. -/
theorem Store.exists_of_write {s t : Store} {path : String} {bytes : Bytes}
    (h : s.write path bytes = .ok t) :
    ∃ place, s.LeadsTo path place ∧ t.file? place = some bytes ∧
      (∀ elsewhere, elsewhere ≠ place → t.file? elsewhere = s.file? elsewhere) ∧
      t.directories = s.directories := by
  obtain ⟨place, hplace, -, rfl⟩ := write_eq_ok_iff.1 h
  exact ⟨place, hplace, lookup_replace_self place bytes s.files,
    fun elsewhere hne => lookup_replace_of_ne hne bytes s.files, rfl⟩

/-- Sealing leaves every byte outside the region alone. -/
theorem Sealing.getElem?_after_outside {digest : Bytes → Digest} {m : FlashMap}
    (s : Sealing digest m) {i : Nat}
    (hi : i < s.placement.regionOffset ∨ s.placement.regionOffset + s.placement.regionLength ≤ i) :
    s.after[i]? = s.before[i]? := by
  by_contra hne
  obtain ⟨hlow, hhigh, -⟩ := s.erased_of_getElem?_ne hne
  simp only [placement] at hi
  omega

theorem Bytes.length_padTo (bs : Bytes) (size : Nat) :
    (bs.padTo size).length = max bs.length size := by
  simp only [padTo, List.length_append, length_erased]
  omega

namespace Session

open Text Toml

variable {digest : Bytes → Digest} {document? : String → Option Entries} {store : Store}
  {mapPath input output : String} {padTo : Option Nat} {m : FlashMap} {image : Bytes}
  {e : CommandError}

/-! ## The first fault -/

/-- The fault of the first step that has one: the steps before it have none. -/
inductive EmbedFault (digest : Bytes → Digest) (document? : String → Option Entries) (store : Store)
    (mapPath input output : String) (padTo : Option Nat) : CommandError → Prop
  | map {e : CommandError} (h : ((loadMap mapPath document?).on store).1 = .error e) :
    EmbedFault digest document? store mapPath input output padTo e
  | image {m : FlashMap} {reason : FileError}
    (hmap : ((loadMap mapPath document?).on store).1 = .ok m)
    (h : store.read input = .error reason) :
    EmbedFault digest document? store mapPath input output padTo (.file reason)
  | pad {m : FlashMap} {image : Bytes} {size : Nat}
    (hmap : ((loadMap mapPath document?).on store).1 = .ok m)
    (hread : store.read input = .ok image) (hsize : padTo = some size) (h : size < image.length) :
    EmbedFault digest document? store mapPath input output padTo (.longerThanPad image.length size)
  | region {m : FlashMap} {image : Bytes} {fault : RegionError}
    (hmap : ((loadMap mapPath document?).on store).1 = .ok m) (hread : store.read input = .ok image)
    (hpad : ∀ size, padTo = some size → image.length ≤ size)
    (h : ((FlashSeal.embed m digest).on (image.padTo (padTo.getD 0))).1 = .error fault) :
    EmbedFault digest document? store mapPath input output padTo (.region fault)
  | write {m : FlashMap} {image final : Bytes} {placement : Placement} {reason : FileError}
    (hmap : ((loadMap mapPath document?).on store).1 = .ok m) (hread : store.read input = .ok image)
    (hpad : ∀ size, padTo = some size → image.length ≤ size)
    (hsealed : (FlashSeal.embed m digest).on (image.padTo (padTo.getD 0)) = (.ok placement, final))
    (h : store.write output final = .error reason) :
    EmbedFault digest document? store mapPath input output padTo (.file reason)

theorem length_le_getD (h : ∀ size, padTo = some size → image.length ≤ size) :
    image.length ≤ padTo.getD image.length := by
  cases padTo with
  | none => exact Nat.le_refl _
  | some size => exact h size rfl

/-- Once the map is loaded and the image is read and fits, sealing and writing decide. -/
theorem exists_embed_on_padded (digest : Bytes → Digest) (output : String)
    (hmap : ((loadMap mapPath document?).on store).1 = .ok m) (hread : store.read input = .ok image)
    (hpad : ∀ size, padTo = some size → image.length ≤ size) :
    ∃ lines events, (embed mapPath input output padTo digest document?).on store =
      match (FlashSeal.embed m digest).on (image.padTo (padTo.getD 0)) with
      | (.error fault, _) => (.error (.region fault), ⟨store, lines, events⟩)
      | (.ok placement, final) =>
        match store.write output final with
        | .error reason => (.error (.file reason), ⟨store, lines, events⟩)
        | .ok written =>
          (.ok (),
            ⟨written, lines ++ placementLines placement ++ [wroteLine final output], events⟩) := by
  obtain ⟨events, hon⟩ := exists_embed_on hmap hread
  rw [resume_sealOpened rfl, if_neg (Nat.not_lt.2 (length_le_getD hpad)), padTo_getD] at hon
  exact ⟨_, _, hon⟩

/-- A fault ends the run, and every file is as it was. -/
theorem EmbedFault.exists_on (h : EmbedFault digest document? store mapPath input output padTo e) :
    ∃ done, (embed mapPath input output padTo digest document?).on store = (.error e, done) ∧
      done.store = store := by
  have hopening {e : CommandError} (h : ((openImage mapPath input document?).on store).1 = .error e) :
      ∃ done, (embed mapPath input output padTo digest document?).on store = (.error e, done) ∧
        done.store = store := by
    obtain ⟨events, hon⟩ := (quiet_openImage mapPath input).exists_bind_on_of_error h
    exact ⟨_, by rw [embed_eq]; exact hon, rfl⟩
  cases h with
  | map h => exact hopening (by rw [on_openImage, h]; rfl)
  | image hmap h => exact hopening (by rw [on_openImage, hmap, h]; rfl)
  | pad hmap hread hsize h =>
    subst hsize
    exact embed_of_longerThanPad hmap hread h
  | region hmap hread hpad h =>
    obtain ⟨lines, events, hon⟩ := exists_embed_on_padded digest output hmap hread hpad
    split at hon
    · next fault left hfault =>
      rw [hfault] at h
      obtain rfl := Except.error.inj h
      exact ⟨_, hon, rfl⟩
    · next hok => simp [hok] at h
  | write hmap hread hpad hsealed h =>
    obtain ⟨lines, events, hon⟩ := exists_embed_on_padded digest output hmap hread hpad
    simp only [hsealed, h] at hon
    exact ⟨_, hon, rfl⟩

/-- A run without a fault succeeds. -/
theorem exists_fault_or_embed (store : Store) (mapPath input output : String) (padTo : Option Nat) :
    (∃ e, EmbedFault digest document? store mapPath input output padTo e) ∨
      ∃ done, (embed mapPath input output padTo digest document?).on store = (.ok (), done) := by
  cases hmap : ((loadMap mapPath document?).on store).1 with
  | error e => exact .inl ⟨e, .map hmap⟩
  | ok m =>
  cases hread : store.read input with
  | error reason => exact .inl ⟨_, .image hmap hread⟩
  | ok image =>
  by_cases hpad : ∀ size, padTo = some size → image.length ≤ size
  · rcases hsealed : (FlashSeal.embed m digest).on (image.padTo (padTo.getD 0))
      with ⟨fault | placement, final⟩
    · exact .inl ⟨_, .region hmap hread hpad (by rw [hsealed])⟩
    · cases hwrite : store.write output final with
      | error reason => exact .inl ⟨_, .write hmap hread hpad hsealed hwrite⟩
      | ok written =>
        obtain ⟨lines, events, hon⟩ := exists_embed_on_padded digest output hmap hread hpad
        simp only [hsealed, hwrite] at hon
        exact .inr ⟨_, hon⟩
  · simp only [not_forall, Nat.not_le] at hpad
    obtain ⟨size, hsize, hlong⟩ := hpad
    exact .inl ⟨_, .pad hmap hread hsize hlong⟩

/-- A run fails exactly with its first fault. -/
theorem embed_eq_error_iff_fault :
    ((embed mapPath input output padTo digest document?).on store).1 = .error e ↔
      EmbedFault digest document? store mapPath input output padTo e := by
  have hfault {e : CommandError} (h : EmbedFault digest document? store mapPath input output padTo e) :
      ((embed mapPath input output padTo digest document?).on store).1 = .error e := by
    obtain ⟨done, hon, -⟩ := h.exists_on
    rw [hon]
  refine ⟨fun h => ?_, hfault⟩
  rcases exists_fault_or_embed store mapPath input output padTo with ⟨e', he'⟩ | ⟨done, hon⟩
  · obtain rfl : e = e' := Except.error.inj (h.symm.trans (hfault he'))
    exact he'
  · rw [hon] at h
    cases h

/-! ## The file that is written -/

/-- The placement is told in the words in which the region is read back. -/
theorem placementLines_sealing {digest : Bytes → Digest} {m : FlashMap} (s : Sealing digest m) :
    placementLines s.placement =
      ["Meta region: " ++ decimal s.region.length ++ " bytes at " ++ address s.region.offset,
        "Meta hash:   " ++ hexDump s.region.hash.bytes, "  at " ++ address s.region.hashOffset] := by
  rw [placementLines, Sealing.placement, s.lawful_region.length_eq]
  rfl

/-- Sealing an image file fails with its first fault and with no other: loading the map, reading the
image, padding it, sealing it, writing it.  No file has changed then.  Else one file has changed at
most, the output.  It holds the image that sealing leaves of the padded input, which is as long as the
longer of the input and the size, differs from the padded input inside the region alone, and reads back
with the same map as the region that was told of: the length, the offsets and the digest that were
printed are that region's and no others. -/
theorem embed_writes_whole_or_nothing (digest : Bytes → Digest) (document? : String → Option Entries)
    (store : Store) (mapPath input output : String) (padTo : Option Nat) :
    (∀ e, ((embed mapPath input output padTo digest document?).on store).1 = .error e ↔
      EmbedFault digest document? store mapPath input output padTo e) ∧
    (∀ e done, (embed mapPath input output padTo digest document?).on store = (.error e, done) →
      done.store = store) ∧
    (∀ done, (embed mapPath input output padTo digest document?).on store = (.ok (), done) →
      ∃ m image padded placement final place r,
        ((loadMap mapPath document?).on store).1 = .ok m ∧ store.read input = .ok image ∧
        padded = image ++ erased (padTo.getD 0 - image.length) ∧
        (FlashSeal.embed m digest).on padded = (.ok placement, final) ∧
        store.LeadsTo output place ∧ done.store.file? place = some final ∧
        (∀ elsewhere, elsewhere ≠ place → done.store.file? elsewhere = store.file? elsewhere) ∧
        done.store.directories = store.directories ∧
        final.length = max image.length (padTo.getD 0) ∧
        (∀ i, i < placement.regionOffset ∨ placement.regionOffset + placement.regionLength ≤ i →
          final[i]? = padded[i]?) ∧
        Region.read final m = .ok r ∧
        done.lines =
          ["Read " ++ decimal image.length ++ " bytes from " ++ quoted input]
          ++ (if image.length < padTo.getD 0 then
              ["Padding image from " ++ decimal image.length ++ " to " ++ decimal (padTo.getD 0)
                ++ " bytes with 0xFF"]
            else [])
          ++ ["Meta region: " ++ decimal r.length ++ " bytes at " ++ address r.offset,
              "Meta hash:   " ++ hexDump r.hash.bytes,
              "  at " ++ address r.hashOffset,
              "Wrote " ++ decimal final.length ++ " bytes to " ++ quoted output] ∧
        Tells DecimalText (decimal r.length) r.length ∧
        Tells AddressText (address r.offset) r.offset ∧
        Tells DumpText (hexDump r.hash.bytes) r.hash.bytes ∧
        Tells AddressText (address r.hashOffset) r.hashOffset) := by
  refine ⟨fun e => embed_eq_error_iff_fault, ?_, ?_⟩
  · intro e done h
    obtain ⟨left, hon, hleft⟩ := (embed_eq_error_iff_fault.1 (by rw [h])).exists_on
    rw [h] at hon
    rwa [(Prod.mk.inj hon).2]
  · intro done h
    obtain ⟨m, image, placement, final, hmap, hread, hsealed, hwrite, hlines⟩ := exists_of_embed h
    obtain ⟨place, hplace, hfile, hothers, hdirectories⟩ := Store.exists_of_write hwrite
    obtain ⟨s, hbefore, rfl, rfl⟩ := exists_sealing hsealed
    refine ⟨m, image, _, s.placement, s.after, place, s.region, hmap, hread, rfl, hsealed, hplace,
      hfile, hothers, hdirectories, ?_, ?_, s.read_after, ?_, tells_decimal _, tells_address _,
      tells_hexDump _, tells_address _⟩
    · rw [s.length_after, ← hbefore, Bytes.length_padTo]
    · intro i hi
      rw [s.getElem?_after_outside hi, ← hbefore]
      rfl
    · rw [hlines, placementLines_sealing, List.append_assoc]
      rfl

/-- Sealing the bench's image in its own file leaves the map's alone, and no file is touched where the
size is too small for the image. -/
theorem embed_writes_whole_or_nothing_bench :
    (∃ done, (embed "map.toml" "flash.bin" "flash.bin" none).on bench = (.ok (), done) ∧
      done.store.file? ["flash.bin"] = some (bootImageWith bootDigest) ∧
      done.store.file? ["map.toml"] = bench.file? ["map.toml"]) ∧
    ∃ left, (embed "map.toml" "flash.bin" "new.bin" (some 82)).on bench
      = (.error (.longerThanPad 83 82), left) ∧ left.store = bench := by
  obtain ⟨-, -, hsuccess⟩ :=
    embed_writes_whole_or_nothing sha256 Toml.document? bench "map.toml" "flash.bin" "flash.bin" none
  obtain ⟨hfault, hback, -⟩ :=
    embed_writes_whole_or_nothing sha256 Toml.document? bench "map.toml" "flash.bin" "new.bin" (some 82)
  obtain ⟨done, h, -⟩ := exists_embed_bench "flash.bin" rfl
  obtain ⟨m, image, padded, placement, final, place, r, hmap, hread, rfl, hsealed, hplace, hfile,
    hothers, -⟩ := hsuccess done h
  obtain rfl : place = ["flash.bin"] := hplace.place_eq ⟨by decide, by decide, by decide⟩
  obtain rfl : twoAreaMap = m := Except.ok.inj (loadMap_bench.symm.trans hmap)
  obtain rfl : bootImage = image := Except.ok.inj hread
  simp only [Option.getD_none, Nat.zero_sub, erased, List.replicate_zero, List.append_nil,
    embed_bootImage, Prod.mk.injEq] at hsealed
  obtain ⟨-, rfl⟩ := hsealed
  have hlength : bootImage.length = 83 := by decide
  have hlong := (hfault _).2 (.pad loadMap_bench hread rfl (by decide))
  rcases hleft : (embed "map.toml" "flash.bin" "new.bin" (some 82)).on bench with ⟨outcome, left⟩
  rw [hleft, hlength] at hlong
  obtain rfl : outcome = .error (.longerThanPad 83 82) := hlong
  exact ⟨⟨done, h, hfile, hothers _ (by decide)⟩, left, rfl, hback _ left hleft⟩

end Session

end FlashSeal
