/-
FlashSeal.Proofs.HashField — a hash covers the image but for its own field.

The digest is taken of the image with the 32 bytes at the offset read as zeroes.  So images that
differ in that field at most have one hash (`calcHash_on_of_sameButField`), and storing the hash in
the field does not change it: the image that `fillHash` leaves hashes to the stored digest, and is
left alone by the next `fillHash` (`fillHash_on_filled`).

Taking a hash clears the field and puts it back, and storing one writes nowhere else.  The range is
checked on plain numbers, so no offset, however large, wraps around into the image.
`hash_excludes_field` says all of this for every digest function.
-/
import FlashSeal.Proofs.ImageWork

namespace FlashSeal

/-! ## Images that differ in the field alone -/

namespace Bytes

variable {image other field : Bytes} {offset : Nat}

/-- The two have one length and differ in the 32 bytes at `offset` at most. -/
structure SameButField (offset : Nat) (other image : Bytes) : Prop where
  length_eq : other.length = image.length
  getElem?_eq : ∀ i, i < offset ∨ offset + digestLength ≤ i → other[i]? = image[i]?

theorem SameButField.blanked_eq (h : SameButField offset other image) :
    other.blanked offset = image.blanked offset :=
  overwrite_congr (by rw [length_zeroes]; exact h.getElem?_eq)

/-- Writing the field changes the field at most. -/
theorem sameButField_overwrite (h : offset + digestLength ≤ image.length)
    (hfield : field.length = digestLength) :
    SameButField offset (image.overwrite offset field) image where
  length_eq := length_overwrite (by rwa [hfield])
  getElem?_eq := by
    intro i hi
    apply Decidable.byContradiction
    intro hne
    obtain ⟨hlow, hhigh⟩ := mem_window_of_getElem?_ne (by rwa [hfield]) hne
    rw [hfield] at hhigh
    omega

theorem blanked_eq_append (image : Bytes) (offset : Nat) :
    image.blanked offset
      = image.take offset ++ List.replicate 32 0 ++ image.drop (offset + 32) := by
  rw [blanked, overwrite, length_zeroes]
  rfl

theorem overwrite_eq_append (image : Bytes) (offset : Nat) (d : Digest) :
    image.overwrite offset d.bytes
      = image.take offset ++ d.bytes ++ image.drop (offset + 32) := by
  rw [overwrite, d.length_bytes]
  rfl

end Bytes

/-! ## Out of range -/

variable {digest : Bytes → Digest} {offset : Nat} {image other : Bytes}

theorem calcHash_hashOutOfRange_iff :
    ((calcHash offset digest).on image).1 = .error (.hashOutOfRange offset image.length) ↔
      image.length < offset + digestLength := by
  rw [calcHash_on]
  split
  · next hin => simpa using hin
  · next hout => simpa using hout

theorem fillHash_hashOutOfRange_iff :
    ((fillHash offset digest).on image).1 = .error (.hashOutOfRange offset image.length) ↔
      image.length < offset + digestLength := by
  rw [fillHash_on]
  split
  · next hin => simpa using hin
  · next hout => simpa using hout

/-! ## In range -/

/-- The hash does not depend on what the field holds. -/
theorem calcHash_on_of_sameButField (hin : offset + digestLength ≤ image.length)
    (h : Bytes.SameButField offset other image) :
    (calcHash offset digest).on other = (.ok (digest (image.blanked offset)), other) := by
  rw [calcHash_on, h.blanked_eq, if_pos (by rwa [h.length_eq])]

/-- Filling again stores what is stored. -/
theorem fillHash_on_filled {filled : Bytes} (hin : offset + digestLength ≤ image.length)
    (hfilled : filled = image.overwrite offset (digest (image.blanked offset)).bytes) :
    (fillHash offset digest).on filled = (.ok (digest (image.blanked offset)), filled) := by
  have hlength : (digest (image.blanked offset)).bytes.length = digestLength :=
    (digest (image.blanked offset)).length_bytes
  have hsame := Bytes.sameButField_overwrite hin hlength
  rw [← hfilled] at hsame
  rw [fillHash_on, hsame.blanked_eq, if_pos (by rwa [hsame.length_eq]), hfilled,
    Bytes.overwrite_overwrite (by rwa [hlength]) rfl]

/-! ## The whole outcome -/

/-- Taking and storing a hash fail exactly when the field reaches past the image, and then leave it
as it was.  Else both give the digest of the image with the field replaced by zeroes: taking it
leaves the image as it was and gives every image that differs in the field alone the same digest,
and storing it writes the field and nothing else.  In the image left both give that digest again
and change nothing. -/
theorem hash_excludes_field (digest : Bytes → Digest) (offset : Nat) (image : Bytes) :
    (((calcHash offset digest).on image).1 = .error (.hashOutOfRange offset image.length) ↔
      image.length < offset + 32) ∧
    (((fillHash offset digest).on image).1 = .error (.hashOutOfRange offset image.length) ↔
      image.length < offset + 32) ∧
    (image.length < offset + 32 →
      ((calcHash offset digest).on image).2 = image ∧
        ((fillHash offset digest).on image).2 = image) ∧
    (offset + 32 ≤ image.length →
      ∃ (d : Digest) (filled : Bytes),
        d = digest (image.take offset ++ List.replicate 32 0 ++ image.drop (offset + 32)) ∧
        filled = image.take offset ++ d.bytes ++ image.drop (offset + 32) ∧
        (calcHash offset digest).on image = (.ok d, image) ∧
        (∀ other, Bytes.SameButField offset other image →
          (calcHash offset digest).on other = (.ok d, other)) ∧
        (fillHash offset digest).on image = (.ok d, filled) ∧
        Bytes.SameButField offset filled image ∧
        (fillHash offset digest).on filled = (.ok d, filled) ∧
        (calcHash offset digest).on filled = (.ok d, filled)) := by
  refine ⟨calcHash_hashOutOfRange_iff, fillHash_hashOutOfRange_iff, ?_, ?_⟩
  · intro hout
    have hout' : ¬ offset + digestLength ≤ image.length := Nat.not_le.2 hout
    rw [calcHash_on, fillHash_on, if_neg hout', if_neg hout']
    exact ⟨rfl, rfl⟩
  · intro hin
    have hsame := Bytes.sameButField_overwrite hin (digest (image.blanked offset)).length_bytes
    refine ⟨digest (image.blanked offset),
      image.overwrite offset (digest (image.blanked offset)).bytes, ?_, ?_, ?_, ?_, ?_, hsame,
      fillHash_on_filled hin rfl, calcHash_on_of_sameButField hin hsame⟩
    · rw [Bytes.blanked_eq_append]
    · rw [Bytes.overwrite_eq_append]
    · rw [calcHash_on]
      exact if_pos hin
    · intro other hother
      exact calcHash_on_of_sameButField hin hother
    · rw [fillHash_on]
      exact if_pos hin

/-- Eight bytes in front of a written field. -/
def fieldImage : Bytes := List.replicate 8 0x11 ++ List.replicate 32 0x22

theorem hash_excludes_field_fieldImage :
    ((calcHash 18446744073709551615).on fieldImage).1
        = .error (.hashOutOfRange 18446744073709551615 40) ∧
      ((fillHash 9).on fieldImage).1 = .error (.hashOutOfRange 9 40) ∧
      ((fillHash 9).on fieldImage).2 = fieldImage ∧
      ∃ d filled, d = sha256 (List.replicate 8 0x11 ++ List.replicate 32 0) ∧
        filled = List.replicate 8 0x11 ++ d.bytes ∧
        (calcHash 8).on fieldImage = (.ok d, fieldImage) ∧
        (calcHash 8).on (fieldImage.set 20 0x33) = (.ok d, fieldImage.set 20 0x33) ∧
        (fillHash 8).on fieldImage = (.ok d, filled) ∧ (fillHash 8).on filled = (.ok d, filled) := by
  obtain ⟨hcalc, -, -, -⟩ := hash_excludes_field sha256 18446744073709551615 fieldImage
  obtain ⟨-, hfill, hleft, -⟩ := hash_excludes_field sha256 9 fieldImage
  obtain ⟨-, -, -, hin⟩ := hash_excludes_field sha256 8 fieldImage
  refine ⟨hcalc.2 (by decide), hfill.2 (by decide), (hleft (by decide)).2, ?_⟩
  obtain ⟨d, filled, hd, hfilled, htake, hagree, hstore, -, hagain, -⟩ := hin (by decide)
  have hsame : Bytes.SameButField 8 (fieldImage.set 20 0x33) fieldImage := by
    refine ⟨List.length_set, ?_⟩
    intro i hi
    rw [List.getElem?_set_ne]
    rw [digestLength] at hi
    omega
  refine ⟨d, filled, hd, ?_, htake, hagree _ hsame, hstore, hagain⟩
  rw [hfilled]
  exact List.append_nil _

end FlashSeal
