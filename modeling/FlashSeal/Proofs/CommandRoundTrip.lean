/-
FlashSeal.Proofs.CommandRoundTrip — what a run sealed, later runs confirm.

A run that seals an image file tells of a placement.  Checking and showing the file that it wrote then
find a seal in that very place, with that very digest, and say so in the same digits (`Confirms`).  With
the map file they look where the map says; without it they search, and find the seal if nothing but
erased bytes stands behind it.  The digits leave no doubt about the numbers (`Tells`).

The file that is written may be the one that was read, but not the map's: the map is read once more.
A file is its place in the store, not its path.  Of plain names it is enough that they differ
(`Store.eq_of_sameFile_of_isName`), and no more than that can be said: m and ./m differ as well, and a
run that writes to one of them takes the map away that stands under the other
(`map_lost_under_another_path`).
-/
import FlashSeal.Proofs.DefinitionOrder
import FlashSeal.Proofs.EmbedWork
import FlashSeal.Proofs.InspectionAgreement
import FlashSeal.Proofs.LastRegion
import FlashSeal.Proofs.StoreWork

namespace FlashSeal

namespace Session

open Text Toml

variable {digest : Bytes → Digest} {document? : String → Option Entries} {store : Store}
  {mapPath input output path : String} {padTo : Option Nat} {image : Bytes} {r : Region}

/-- Checking and showing the image of a file succeed, and both tell of the seal that the placement
tells of. -/
structure Confirms (digest : Bytes → Digest) (document? : String → Option Entries) (store : Store)
    (path : String) (mapPath : Option String) (p : Placement) : Prop where
  verify_ok : ((verify path mapPath digest document?).on store).1 = .ok ()
  verify_lines : ((verify path mapPath digest document?).on store).2.lines =
    ["Meta hash OK: " ++ hexDump p.hash.bytes]
  describe_ok : ((describe path mapPath digest document?).on store).1 = .ok ()
  describe_lines : ∃ areas : List AreaRecord,
    ((describe path mapPath digest document?).on store).2.lines =
      ["Meta Region",
        "===========",
        "Version: 1",
        "Offset:  " ++ address p.regionOffset ++ " - " ++ address (p.regionOffset + p.regionLength)
          ++ " (" ++ decimal p.regionLength ++ " bytes)",
        "Hash:    " ++ hexDump p.hash.bytes ++ " (at " ++ address p.hashOffset ++ ")",
        "",
        "Flash areas (" ++ decimal areas.length ++ "):",
        "  Id Device       Offset         Size",
        "-------------------------------------"] ++ areas.map recordLine
      ++ ["", "Hash:   valid"]

/-- The lines of a region of the known version, with its numbers in them. -/
theorem regionLines_of_lawful (hr : r.Lawful) :
    regionLines r =
      ["Meta Region",
        "===========",
        "Version: 1",
        "Offset:  " ++ address r.offset ++ " - " ++ address (r.offset + r.length)
          ++ " (" ++ decimal r.length ++ " bytes)",
        "Hash:    " ++ hexDump r.hash.bytes ++ " (at " ++ address r.hashOffset ++ ")",
        "",
        "Flash areas (" ++ decimal r.areas.length ++ "):",
        "  Id Device       Offset         Size",
        "-------------------------------------"] ++ r.areas.map recordLine := by
  rw [regionLines, hr.version_eq]
  rfl

/-- A region that is opened and stores the image's digest is confirmed. -/
theorem confirms_of_open {mapPath : Option String} (hr : r.Lawful)
    (hopen : ((openRegion path mapPath document?).on store).1 = .ok (image, r))
    (hdigest : digest (image.blanked r.hashOffset) = r.hash) :
    Confirms digest document? store path mapPath ⟨r.offset, r.length, r.hashOffset, r.hash⟩ := by
  obtain ⟨events, hchecked⟩ := exists_verify_on hopen
  obtain ⟨events', hshown⟩ := exists_describe_on hopen
  rw [if_pos hdigest] at hchecked
  rw [decide_eq_true hdigest, regionLines_of_lawful hr] at hshown
  exact ⟨by rw [hchecked], by rw [hchecked], by rw [hshown], r.areas, by rw [hshown]; rfl⟩

/-- The seal of an image that a store holds is confirmed once its region is located. -/
theorem confirms_of_located {m : FlashMap} {s : Sealing digest m} {mapPath : Option String}
    (hread : store.read path = .ok s.after)
    (hlocate : ((locate s.after mapPath document?).on store).1 = .ok s.region) :
    Confirms digest document? store path mapPath s.placement := by
  have hplacement : s.placement =
      ⟨s.region.offset, s.region.length, s.region.hashOffset, s.region.hash⟩ := by
    rw [s.lawful_region.length_eq]
    rfl
  rw [hplacement]
  exact confirms_of_open s.lawful_region (openRegion_eq_ok_iff.2 ⟨hread, hlocate⟩) s.hash_eq.symm

/-- A map that was loaded is loaded again after a file was written that is not the map's. -/
theorem on_loadMap_of_write_other {written : Store} {m : FlashMap} {final : Bytes}
    (hother : ¬ store.SameFile mapPath output) (hwrite : store.write output final = .ok written)
    (hmap : ((loadMap mapPath document?).on store).1 = .ok m) :
    ((loadMap mapPath document?).on written).1 = .ok m := by
  rw [← hmap]
  rw [on_loadMap] at hmap
  obtain ⟨bytes, hbytes, -⟩ := Except.bind_eq_ok_iff.1 hmap
  have hread := Except.mapError_eq_ok_iff.1 hbytes
  refine on_loadMap_congr ?_
  rw [hread]
  exact Store.read_of_write_other hwrite hother hread

/-- A run that seals an image file embeds the map's region in the padded image, tells of the placement
and writes the image.  If the file is not the map's, be it that the two have different plain names or
that their paths lead to different places, checking and showing it with the map confirm that placement,
and so they do without the map if every byte from the boot loader area's end on is erased.  The offsets,
the length and the digest that are told of are those of the placement and no others. -/
theorem inspect_after_embed {done : Progress}
    (hother : (Path.IsName mapPath ∧ Path.IsName output ∧ mapPath ≠ output) ∨
      ¬ store.SameFile mapPath output)
    (h : (embed mapPath input output padTo digest document?).on store = (.ok (), done)) :
    ∃ m boot image padded placement written,
      ((loadMap mapPath document?).on store).1 = .ok m ∧ m.bootLoader? = some boot ∧
      store.read input = .ok image ∧ padded = image ++ erased (padTo.getD 0 - image.length) ∧
      (FlashSeal.embed m digest).on padded = (.ok placement, written) ∧
      done.lines =
        ["Read " ++ decimal image.length ++ " bytes from " ++ quoted input]
        ++ (if image.length < padTo.getD 0 then
            ["Padding image from " ++ decimal image.length ++ " to " ++ decimal (padTo.getD 0)
              ++ " bytes with 0xFF"]
          else [])
        ++ ["Meta region: " ++ decimal placement.regionLength ++ " bytes at "
              ++ address placement.regionOffset,
            "Meta hash:   " ++ hexDump placement.hash.bytes,
            "  at " ++ address placement.hashOffset,
            "Wrote " ++ decimal written.length ++ " bytes to " ++ quoted output] ∧
      Tells DecimalText (decimal placement.regionLength) placement.regionLength ∧
      Tells AddressText (address placement.regionOffset) placement.regionOffset ∧
      Tells AddressText (address placement.hashOffset) placement.hashOffset ∧
      Tells DumpText (hexDump placement.hash.bytes) placement.hash.bytes ∧
      done.store.read output = .ok written ∧
      Confirms digest document? done.store output (some mapPath) placement ∧
      ((∀ b ∈ written.drop (boot.offset.toNat + boot.size.toNat), b = 0xFF) →
        Confirms digest document? done.store output none placement) := by
  have hother : ¬ store.SameFile mapPath output := by
    rcases hother with ⟨hname, hname', hne⟩ | hother
    · exact fun hsame => hne (Store.eq_of_sameFile_of_isName hsame hname hname')
    · exact hother
  obtain ⟨m, image, placement, written, hmap, hread, hsealed, hwrite, hlines⟩ := exists_of_embed h
  obtain ⟨s, -, rfl, rfl⟩ := exists_sealing hsealed
  have hback : done.store.read output = .ok s.after := Store.read_of_write hwrite
  have hagain : ((loadMap mapPath document?).on done.store).1 = .ok m :=
    on_loadMap_of_write_other hother hwrite hmap
  refine ⟨m, s.boot, image, _, s.placement, s.after, hmap, s.boot_eq, hread, rfl, hsealed, ?_,
    tells_decimal _, tells_address _, tells_address _, tells_hexDump _, hback, ?_, ?_⟩
  · rw [hlines, List.append_assoc]
    rfl
  · refine confirms_of_located hback ?_
    rw [on_locate_some, hagain, Except.ok_bind, s.read_after]
    rfl
  · intro herased
    have hstop : s.boot.stop ≤ s.after.length := by
      rw [s.length_after, s.length_before]
      omega
    refine confirms_of_located hback ?_
    rw [on_locate_none, Region.find_of_erased_behind hstop s.decode_take herased]
    rfl

/-! ## A bench with a map and an image -/

/-- A map file with two areas. -/
def twoAreaText : String :=
  "[[area]]\nname = \"FLASH_AREA_BOOTLOADER\"\nid = 3\noffset = 2\nsize = 76\n" ++
  "[[area]]\nname = \"FLASH_AREA_IMAGE_0\"\nid = 1\ndevice = 1\noffset = 0x8000\nsize = \"16KiB\"\n"

def twoAreaEntries : List AreaEntry :=
  [⟨"FLASH_AREA_BOOTLOADER", some (.word 3), none, .word 2, .word 76⟩,
    ⟨"FLASH_AREA_IMAGE_0", some (.word 1), some (.word 1), .word 0x8000, .text "16KiB"⟩]

theorem ofText_twoAreaText : FlashMap.ofText twoAreaText = .ok twoAreaMap := by
  have hfile : MapFile.ofText twoAreaText = .ok ⟨none, twoAreaEntries⟩ := by decide +kernel
  have hmap : MapFile.flashMap ⟨none, twoAreaEntries⟩ = .ok twoAreaMap := by
    refine MapFile.flashMap_eq_ok_iff.2 ⟨twoAreaMap.areas, ?_, by decide, rfl, .refl _, by cbv⟩
    exact .cons (by rfl) (.cons (by rfl) .nil)
  rw [FlashMap.ofText, hfile]
  simp only [Except.ok_mapError, Except.ok_bind, hmap]

/-- A map file, and an image file that is sealed where it stands. -/
def bench : Store where
  files := [(["map.toml"], twoAreaText.toUTF8.data.toList), (["flash.bin"], bootImage)]

theorem loadMap_bench : ((loadMap "map.toml").on bench).1 = .ok twoAreaMap := by
  have hread : bench.read "map.toml" = .ok twoAreaText.toUTF8.data.toList := by rfl
  rw [on_loadMap_of_text hread, ofText_twoAreaText]
  rfl

/-- On the bench only the output can be refused. -/
theorem exists_embed_bench (output : String) {written : Store}
    (hwrite : bench.write output (bootImageWith bootDigest) = .ok written) :
    ∃ done, (embed "map.toml" "flash.bin" output none).on bench = (.ok (), done) ∧
      done.store = written := by
  have hread : bench.read "flash.bin" = .ok bootImage := by rfl
  obtain ⟨events, hon⟩ : ∃ events, (embed "map.toml" "flash.bin" output none).on bench =
      (sealOpened "flash.bin" output none sha256 twoAreaMap bootImage).resume ⟨bench, [], events⟩ :=
    exists_embed_on loadMap_bench hread
  rw [resume_sealOpened rfl, Option.getD_none, if_neg (Nat.lt_irrefl _), Bytes.padTo_length] at hon
  simp only [embed_bootImage, hwrite] at hon
  exact ⟨_, hon, rfl⟩

theorem inspect_after_embed_bench :
    ∃ done, (embed "map.toml" "flash.bin" "flash.bin" none).on bench = (.ok (), done) ∧
      Confirms sha256 Toml.document? done.store "flash.bin" (some "map.toml")
        ⟨4, 74, 38, bootDigest⟩ ∧
      Confirms sha256 Toml.document? done.store "flash.bin" none ⟨4, 74, 38, bootDigest⟩ := by
  have hread : bench.read "flash.bin" = .ok bootImage := by rfl
  obtain ⟨done, h, -⟩ := exists_embed_bench "flash.bin" rfl
  have hmapName : Path.IsName "map.toml" := ⟨by decide, by decide, by decide⟩
  have houtputName : Path.IsName "flash.bin" := ⟨by decide, by decide, by decide⟩
  obtain ⟨m, boot, image, padded, p, written, hmap, hboot, himage, hpadded, hsealed, -, -, -, -, -, -,
    hwith, hwithout⟩ := inspect_after_embed (.inl ⟨hmapName, houtputName, by decide⟩) h
  obtain rfl : twoAreaMap = m := Except.ok.inj (loadMap_bench.symm.trans hmap)
  obtain rfl : bootImage = image := Except.ok.inj (hread.symm.trans himage)
  obtain rfl : (⟨"FLASH_AREA_BOOTLOADER", 3, 0, 2, 76⟩ : Area) = boot :=
    Option.some.inj (bootLoader?_twoAreaMap.symm.trans hboot)
  rw [hpadded, Option.getD_none, Nat.zero_sub, erased, List.replicate_zero, List.append_nil,
    embed_bootImage] at hsealed
  obtain ⟨hp, rfl⟩ := Prod.mk.inj hsealed
  obtain rfl := Except.ok.inj hp
  have hbehind : (bootImageWith bootDigest).drop 78 = erased 5 := by rfl
  refine ⟨done, h, hwith, hwithout ?_⟩
  intro b hb
  exact List.eq_of_mem_replicate (hbehind ▸ hb)

/-- Different paths do not make different files: the map is gone once the image was written through
another path to it, and what was sealed cannot be checked with it any more. -/
theorem map_lost_under_another_path :
    "map.toml" ≠ "./map.toml" ∧
    ∃ done, (embed "map.toml" "flash.bin" "./map.toml" none).on bench = (.ok (), done) ∧
      ((verify "./map.toml" (some "map.toml")).on done.store).1 = .error (.mapNoText "map.toml") := by
  obtain ⟨done, h, hstore⟩ := exists_embed_bench "./map.toml" rfl
  have hread : done.store.read "./map.toml" = .ok (bootImageWith bootDigest) := by
    rw [hstore]
    rfl
  have hmap : done.store.read "map.toml" = .ok (bootImageWith bootDigest) := by
    rw [hstore]
    rfl
  have htext : String.fromUTF8? (ByteArray.mk (bootImageWith bootDigest).toArray) = none := by
    decide +kernel
  have hopen : ((openRegion "./map.toml" (some "map.toml") Toml.document?).on done.store).1 =
      .error (.mapNoText "map.toml") := by
    rw [on_openRegion, on_readImage, hread, Except.ok_mapError, Except.ok_bind, on_locate_some,
      on_loadMap, hmap, Except.ok_mapError, Except.ok_bind, htext]
    rfl
  obtain ⟨events, hchecked⟩ :=
    (quiet_openRegion "./map.toml" (some "map.toml")).exists_bind_on_of_error hopen
  refine ⟨by decide, done, h, ?_⟩
  rw [verify_eq, hchecked]

end Session

end FlashSeal
