/-
FlashSeal.Proofs.Window — reading and writing a window of a byte string.

A window is given by its start and its length.  `Bytes.slice` reads it, `Bytes.overwrite` writes
it, and `Bytes.blanked` writes 32 zeroes over it.  Every law below comes from one cut: a string
that reaches past the end of a window is the bytes in front of it, the window and the bytes behind
it (`exists_window`), and on such a string reading and writing are plain (`slice_append`,
`overwrite_append`).

Byte by byte a window is what stands in it (`slice_congr`, `slice_eq_erased_iff`), and a write
forgets what stood in its window (`overwrite_congr`).

`eq_of_slice_eq_of_blanked_eq` is what a hash with an excluded window rests on: the window and the
rest together are the whole string, so nothing outside of both can change.
-/
import FlashSeal.Bytes.Digest

namespace FlashSeal

@[simp] theorem length_zeroes (n : Nat) : (zeroes n).length = n := List.length_replicate

@[simp] theorem length_erased (n : Nat) : (erased n).length = n := List.length_replicate

namespace Bytes

/-- The `n` bytes from `start` on. -/
def slice (bs : Bytes) (start n : Nat) : Bytes := (bs.drop start).take n

/-- The string with the 32 bytes at `offset` replaced by zeroes. -/
def blanked (bs : Bytes) (offset : Nat) : Bytes := bs.overwrite offset (zeroes digestLength)

variable {bs front mid back field : Bytes} {start n : Nat}

/-! ## Cutting a string at a window -/

theorem length_slice (h : start + n ≤ bs.length) : (bs.slice start n).length = n := by
  rw [slice, List.length_take, List.length_drop]
  omega

/-- A window that reads in full lies in the string. -/
theorem le_length_of_length_slice (hpos : 0 < n) (h : (bs.slice start n).length = n) :
    start + n ≤ bs.length := by
  rw [slice, List.length_take, List.length_drop] at h
  omega

/-- A string that reaches past a window is cut into three at its ends. -/
theorem exists_window (h : start + n ≤ bs.length) :
    ∃ front mid back : Bytes,
      bs = front ++ mid ++ back ∧ front.length = start ∧ mid.length = n := by
  refine ⟨bs.take start, bs.slice start n, bs.drop (start + n), ?_, ?_, ?_⟩
  · rw [slice, List.append_assoc, ← List.drop_drop, List.take_append_drop, List.take_append_drop]
  · rw [List.length_take]
    omega
  · exact length_slice h

theorem slice_append (hf : front.length = start) (hm : mid.length = n) :
    slice (front ++ mid ++ back) start n = mid := by
  subst hf hm
  rw [slice, List.append_assoc, List.drop_left, List.take_left]

theorem overwrite_append (hf : front.length = start) (hl : field.length = mid.length) :
    overwrite (front ++ mid ++ back) start field = front ++ field ++ back := by
  subst hf
  have hcut : front.length + field.length = (front ++ mid).length := by
    rw [List.length_append, hl]
  rw [overwrite, hcut, List.drop_left, List.append_assoc front mid, List.take_left]

/-! ## Byte by byte -/

theorem getElem?_slice (bs : Bytes) (start n i : Nat) :
    (bs.slice start n)[i]? = if i < n then bs[start + i]? else none := by
  rw [slice, List.getElem?_take, List.getElem?_drop]

/-- Strings that agree in a window read alike there. -/
theorem slice_congr {as : Bytes} (h : ∀ i, start ≤ i → i < start + n → as[i]? = bs[i]?) :
    as.slice start n = bs.slice start n := by
  apply List.ext_getElem?
  intro i
  rw [getElem?_slice, getElem?_slice]
  split
  · exact h (start + i) (by omega) (by omega)
  · rfl

/-- Strings that agree outside of a window are one string once the window is written. -/
theorem overwrite_congr {as : Bytes}
    (h : ∀ i, i < start ∨ start + field.length ≤ i → as[i]? = bs[i]?) :
    as.overwrite start field = bs.overwrite start field := by
  have hfront : as.take start = bs.take start := by
    apply List.ext_getElem?
    intro i
    rw [List.getElem?_take, List.getElem?_take]
    split
    · next hi => exact h i (.inl hi)
    · rfl
  have hback : as.drop (start + field.length) = bs.drop (start + field.length) := by
    apply List.ext_getElem?
    intro i
    rw [List.getElem?_drop, List.getElem?_drop]
    exact h _ (.inr (Nat.le_add_right _ _))
  rw [overwrite, overwrite, hfront, hback]

/-- A window is erased exactly when each of its bytes is. -/
theorem slice_eq_erased_iff :
    bs.slice start n = erased n ↔
      ∀ i, start ≤ i → i < start + n → bs[i]? = some erasedByte := by
  constructor
  · intro herased i hlow hhigh
    have hbyte := getElem?_slice bs start n (i - start)
    rw [herased, erased, List.getElem?_replicate, if_pos (by omega), if_pos (by omega),
      Nat.add_sub_cancel' hlow] at hbyte
    exact hbyte.symm
  · intro hall
    apply List.ext_getElem?
    intro i
    rw [getElem?_slice, erased, List.getElem?_replicate]
    split
    · exact hall (start + i) (by omega) (by omega)
    · rfl

/-- The last byte of a front part is the one in front of its end. -/
theorem getLast?_take (hpos : 0 < n) (hn : n ≤ bs.length) : (bs.take n).getLast? = bs[n - 1]? := by
  rw [List.getLast?_eq_getElem?, List.length_take, Nat.min_eq_left hn,
    List.getElem?_take_of_lt (by omega)]

/-! ## A string with more behind it -/

theorem slice_append_of_le (back : Bytes) (h : start + n ≤ bs.length) :
    (bs ++ back).slice start n = bs.slice start n :=
  slice_congr fun _ _ hi => List.getElem?_append_left (by omega)

theorem overwrite_append_of_le (back : Bytes) (h : start + field.length ≤ bs.length) :
    (bs ++ back).overwrite start field = bs.overwrite start field ++ back := by
  rw [overwrite, overwrite, List.take_append_of_le_length (by omega),
    List.drop_append_of_le_length h, List.append_assoc _ _ back]

/-- A byte behind the string is an erased one, if erased bytes stand there. -/
theorem getElem?_append_erased {k i : Nat} (hlow : bs.length ≤ i) (hhigh : i < bs.length + k) :
    (bs ++ erased k)[i]? = some erasedByte := by
  rw [List.getElem?_append_right hlow, erased, List.getElem?_replicate, if_pos (by omega)]

/-! ## Reading after writing -/

/-- Writing a window's own bytes back changes nothing. -/
theorem overwrite_slice (h : start + n ≤ bs.length) :
    bs.overwrite start (bs.slice start n) = bs := by
  obtain ⟨front, mid, back, rfl, hf, hm⟩ := exists_window h
  rw [slice_append hf hm, overwrite_append hf rfl]

/-- Of two writes to one window the second alone counts. -/
theorem overwrite_overwrite {first : Bytes} (h : start + first.length ≤ bs.length)
    (hl : field.length = first.length) :
    (bs.overwrite start first).overwrite start field = bs.overwrite start field := by
  obtain ⟨front, mid, back, rfl, hf, hm⟩ := exists_window h
  rw [overwrite_append hf hm.symm, overwrite_append hf hl, overwrite_append hf (hl.trans hm.symm)]

/-- A byte in the window is the window's. -/
theorem getElem?_append_window {i : Nat} (hf : front.length = start) (hi : start ≤ i)
    (hin : i < start + mid.length) : (front ++ mid ++ back)[i]? = mid[i - start]? := by
  subst hf
  rw [List.getElem?_append_left (by rw [List.length_append]; omega),
    List.getElem?_append_right hi]

/-- A byte that a write changed lies in the window. -/
theorem mem_window_of_getElem?_ne {i : Nat} (h : start + field.length ≤ bs.length)
    (hne : (bs.overwrite start field)[i]? ≠ bs[i]?) : start ≤ i ∧ i < start + field.length := by
  obtain ⟨front, mid, back, rfl, hf, hm⟩ := exists_window h
  rw [overwrite_append hf hm.symm] at hne
  -- In front of the window and behind it the two strings are one.
  by_cases hi : i < start
  · refine absurd ?_ hne
    rw [List.append_assoc, List.append_assoc, List.getElem?_append_left (by omega),
      List.getElem?_append_left (by omega)]
  · by_cases hj : start + field.length ≤ i
    · refine absurd ?_ hne
      have hfront : (front ++ field).length = (front ++ mid).length := by
        rw [List.length_append, List.length_append, hm]
      rw [List.getElem?_append_right (by rw [List.length_append]; omega),
        List.getElem?_append_right (by rw [List.length_append]; omega), hfront]
    · exact ⟨by omega, by omega⟩

/-! ## The blanked string -/

/-- Blanking forgets what the window held. -/
theorem blanked_overwrite {offset : Nat} (h : offset + digestLength ≤ bs.length)
    (hl : field.length = digestLength) : (bs.overwrite offset field).blanked offset = bs.blanked offset :=
  overwrite_overwrite (by rwa [hl]) (by rw [length_zeroes, hl])

/-- Writing a window's bytes over the blanked string gives the string back. -/
theorem overwrite_blanked {offset : Nat} (h : offset + digestLength ≤ bs.length) :
    (bs.blanked offset).overwrite offset (bs.slice offset digestLength) = bs := by
  have hl : (bs.slice offset digestLength).length = digestLength := length_slice h
  rw [blanked, overwrite_overwrite (by rwa [length_zeroes]) (by rw [hl, length_zeroes]),
    overwrite_slice h]

/-- The window and the blanked string together are the whole string. -/
theorem eq_of_slice_eq_of_blanked_eq {as : Bytes} {offset : Nat}
    (ha : offset + digestLength ≤ as.length) (hb : offset + digestLength ≤ bs.length)
    (hs : as.slice offset digestLength = bs.slice offset digestLength)
    (hz : as.blanked offset = bs.blanked offset) : as = bs :=
  calc as = (as.blanked offset).overwrite offset (as.slice offset digestLength) :=
        (overwrite_blanked ha).symm
    _ = (bs.blanked offset).overwrite offset (bs.slice offset digestLength) := by rw [hs, hz]
    _ = bs := overwrite_blanked hb

end Bytes

end FlashSeal
