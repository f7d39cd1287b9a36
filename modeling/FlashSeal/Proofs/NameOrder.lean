/-
FlashSeal.Proofs.NameOrder — names in the order of their bytes.

Names are compared character by character, and names in UTF-8 byte by byte, and the two orders are one
(`lt_iff_utf8_lt`).  The reason is how UTF-8 cuts a code into bytes.  Characters with different numbers
of bytes differ in the first of them; characters with the same number differ first where their codes do,
in base 64.  So bytes decide between two characters before either of them ends, and what stands behind
makes no difference (`utf8EncodeChar_append_lt`).

For areas it follows that the emission compares id, device, offset and the bytes of the name
(`Area.precedes_iff_byteKey_lt`).
-/
import Mathlib.Data.List.Lex
import FlashSeal.Bytes
import FlashSeal.Proofs.EmissionOrder

namespace FlashSeal

/-! ## Characters -/

/-- The smaller of two characters has the smaller bytes, whatever stands behind them. -/
theorem utf8EncodeChar_append_lt {c d : Char} (h : c < d) (bs bs' : Bytes) :
    String.utf8EncodeChar c ++ bs < String.utf8EncodeChar d ++ bs' := by
  have hlt : c.val.toNat < d.val.toNat := h
  have hvalid : d.val.toNat < 55296 ∨ 57343 < d.val.toNat ∧ d.val.toNat < 1114112 := d.valid
  -- one to four bytes for each of the two; all that is left are the digits of the codes in base 64
  simp only [String.utf8EncodeChar]
  split_ifs <;>
    simp (disch := omega) only [List.cons_append, List.nil_append, List.cons_lt_cons_iff,
      UInt8.lt_iff_toNat_lt, ← UInt8.toNat_inj, UInt8.toNat_ofNat', Nat.mod_eq_of_lt] <;>
    omega

theorem utf8EncodeChar_ne_nil (c : Char) : String.utf8EncodeChar c ≠ [] := by
  refine List.ne_nil_of_length_pos ?_
  rw [String.length_utf8EncodeChar]
  exact c.utf8Size_pos

/-! ## Names -/

/-- The bytes of a text in UTF-8. -/
def utf8 (s : String) : Bytes := s.toUTF8.data.toList

theorem utf8_eq_flatMap (s : String) : utf8 s = s.toList.flatMap String.utf8EncodeChar := by
  rw [utf8, String.toUTF8_eq_toByteArray, ← String.utf8Encode_toList, List.utf8Encode,
    List.toList_data_toByteArray]

theorem flatMap_utf8EncodeChar_lt {cs ds : List Char} (h : cs < ds) :
    cs.flatMap String.utf8EncodeChar < ds.flatMap String.utf8EncodeChar := by
  induction cs generalizing ds with
  | nil =>
    cases ds with
    | nil => exact absurd h (lt_irrefl _)
    | cons d ds =>
      obtain ⟨b, bs, hd⟩ := List.exists_cons_of_ne_nil (utf8EncodeChar_ne_nil d)
      rw [List.flatMap_cons, hd]
      exact List.nil_lt_cons b _
  | cons c cs ih =>
    cases ds with
    | nil => exact absurd h (List.not_lt_nil _)
    | cons d ds =>
      rw [List.flatMap_cons, List.flatMap_cons]
      rcases List.cons_lt_cons_iff.1 h with hlt | ⟨rfl, hrest⟩
      · exact utf8EncodeChar_append_lt hlt _ _
      · exact List.append_left_lt (ih hrest)

/-- Texts stand in the order of their bytes. -/
theorem lt_iff_utf8_lt {s t : String} : s < t ↔ utf8 s < utf8 t := by
  have hmono {s t : String} (h : s < t) : utf8 s < utf8 t := by
    rw [utf8_eq_flatMap, utf8_eq_flatMap]
    exact flatMap_utf8EncodeChar_lt (String.lt_iff.1 h)
  refine ⟨hmono, fun h => ?_⟩
  rcases lt_trichotomy s t with hlt | rfl | hgt
  · exact hlt
  · exact absurd h (List.lt_irrefl _)
  · exact absurd h (List.lt_asymm (hmono hgt))

/-! ## Areas -/

namespace Area

/-- What the emission compares, the most significant number first and the name by its bytes. -/
def byteKey (a : Area) : Nat ×ₗ Nat ×ₗ Nat ×ₗ Bytes :=
  toLex (a.id.toNat, toLex (a.device.toNat, toLex (a.offset.toNat, utf8 a.name)))

theorem precedes_iff_byteKey_lt {a b : Area} : a.precedes b = true ↔ a.byteKey < b.byteKey := by
  simp only [precedes_iff_key_lt, key, byteKey, Prod.Lex.toLex_lt_toLex, lt_iff_utf8_lt]

end Area

end FlashSeal
